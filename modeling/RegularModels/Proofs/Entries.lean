import Mathlib.Data.List.Nodup
import RegularModels.Table

/-!
# Entries of a table under one key

A table has at most one entry under a key.  So a list that is put together from
the entries of a table, and to which the entries under other keys contribute
nothing, is the contribution of a single entry; and writing or removing an entry
leaves the others as they are and where they are.
-/

namespace RegularModels

/-- When only one item of a list contributes, the contributions are its own. -/
theorem flatMap_eq_of_unique
    {α γ : Type}
    {items : List α} {item : α}
    {contribution : α → List γ}
    (nodup : items.Nodup)
    (member : item ∈ items)
    (others : ∀ other ∈ items, other ≠ item → contribution other = []) :
    items.flatMap contribution = contribution item := by
  induction items with
  | nil => simp at member
  | cons head rest ih =>
      rcases List.nodup_cons.mp nodup with ⟨notLater, restNodup⟩
      rw [List.flatMap_cons]
      rcases List.mem_cons.mp member with rfl | inRest
      · have silent : rest.flatMap contribution = [] := by
          rw [List.flatMap_eq_nil_iff]
          intro other inRest
          exact others other (List.mem_cons_of_mem _ inRest)
            (fun same => notLater (same ▸ inRest))
        rw [silent, List.append_nil]
      · have different : head ≠ item := fun same => notLater (same ▸ inRest)
        rw [others head (by simp) different, List.nil_append]
        exact ih restNodup inRest
          (fun other later => others other (List.mem_cons_of_mem _ later))

namespace Table

variable {α β γ : Type}

theorem ext_entries
    {left right : Table α β}
    (same : left.entries = right.entries) :
    left = right := by
  cases left
  cases right
  cases same
  rfl

theorem nodup_entries (table : Table α β) : table.entries.Nodup :=
  List.Nodup.of_map _ table.nodup

/-- The entries of tables that agree differ in their order only. -/
theorem Agrees.perm
    {left right : Table α β}
    (agrees : left.Agrees right) :
    left.entries.Perm right.entries := by
  rw [List.perm_ext_iff_of_nodup left.nodup_entries right.nodup_entries]
  exact fun entry => ⟨agrees.1 entry, agrees.2 entry⟩

variable [DecidableEq α]

/-! ## Lists of entries, with keys that may repeat -/

theorem mem_of_lookup
    {key : α} {value : β} {entries : List (α × β)}
    (found : lookup key entries = some value) :
    (key, value) ∈ entries := by
  induction entries with
  | nil => cases found
  | cons entry rest ih =>
      rcases entry with ⟨otherKey, otherValue⟩
      rw [lookup] at found
      split at found
      · rename_i same
        cases found
        rw [same]
        exact List.mem_cons_self
      · exact List.mem_cons_of_mem _ (ih found)

theorem mem_of_mem_write
    {key : α} {value : β} {entries : List (α × β)} {entry : α × β}
    (member : entry ∈ write key value entries) :
    entry = (key, value) ∨ entry ∈ entries := by
  induction entries with
  | nil => exact .inl (List.mem_singleton.mp member)
  | cons first rest ih =>
      rw [write] at member
      split at member
      · rename_i same
        rcases List.mem_cons.mp member with rfl | inRest
        · exact .inl (by rw [same])
        · exact .inr (List.mem_cons_of_mem _ inRest)
      · rcases List.mem_cons.mp member with rfl | inRest
        · exact .inr List.mem_cons_self
        · rcases ih inRest with new | old
          · exact .inl new
          · exact .inr (List.mem_cons_of_mem _ old)

/-! ## Entries of a table -/

/-- Only the entry under the key contributes. -/
theorem flatMap_entries_eq
    (table : Table α β)
    {key : α}
    {contribution : α × β → List γ}
    (others : ∀ entry ∈ table.entries, entry.1 ≠ key → contribution entry = []) :
    table.entries.flatMap contribution =
      (table.get? key).elim [] fun value => contribution (key, value) := by
  cases found : table.get? key with
  | none =>
      apply List.flatMap_eq_nil_iff.mpr
      intro entry member
      apply others entry member
      rintro rfl
      exact get?_eq_none_iff.mp found (List.mem_map_of_mem member)
  | some value =>
      apply flatMap_eq_of_unique table.nodup_entries
        (get?_eq_some_iff.mp found)
      intro entry member different
      apply others entry member
      rintro rfl
      have same : table.get? entry.1 = some entry.2 := get?_eq_some_iff.mpr member
      rw [found] at same
      exact different (Prod.ext rfl (Option.some.inj same).symm)

theorem mem_iff_exists_get? {table : Table α β} {key : α} :
    key ∈ table ↔ ∃ value, table.get? key = some value := by
  rw [← Option.isSome_iff_exists, ← Option.ne_none_iff_isSome, ne_eq, get?_eq_none_iff,
    Decidable.not_not]

/-- After a write, a key has what was written under it, or what it had before. -/
theorem get?_insert_eq_some_iff
    {table : Table α β} {key other : α} {value found : β} :
    (table.insert key value).get? other = some found ↔
      (other = key ∧ found = value) ∨ (other ≠ key ∧ table.get? other = some found) := by
  rw [get?_insert]
  by_cases same : key = other
  · subst same
    simp [eq_comm]
  · simp [same, Ne.symm same]

/-- A write adds an entry when its key is new. -/
theorem size_insert (table : Table α β) (key : α) (value : β) :
    (table.insert key value).size =
      if table.get? key = none then table.size + 1 else table.size := by
  have size_eq (table : Table α β) : table.size = table.keys.length := by
    rw [size, keys, List.length_map]
  rw [size_eq, size_eq, keys_insert]
  by_cases present : key ∈ table
  · rw [if_pos present, if_neg (get?_eq_none_iff.not.mpr (Decidable.not_not.mpr present))]
  · rw [if_neg present, if_pos (get?_eq_none_iff.mpr present), List.length_append]
    rfl

/-- A key that is new comes last, and the entries before it stay as they are. -/
theorem entries_insert_of_not_mem
    {table : Table α β} {key : α}
    (new : key ∉ table)
    (value : β) :
    (table.insert key value).entries = table.entries ++ [(key, value)] := by
  have written : ∀ entries : List (α × β), key ∉ entries.map Prod.fst →
      write key value entries = entries ++ [(key, value)] := by
    intro entries absent
    induction entries with
    | nil => rfl
    | cons entry rest ih =>
        rw [List.map_cons, List.mem_cons, not_or] at absent
        rw [write, if_neg (Ne.symm absent.1), ih absent.2, List.cons_append]
  exact written table.entries new

/-! ## Entries written and removed -/

/--
The entry is written in the place of its key, or last if the key is new; nothing else
changes.
-/
def Puts (before : Table α β) (key : α) (value : β) (after : Table α β) : Prop :=
  (key ∉ before ∧ after.entries = before.entries ++ [(key, value)]) ∨
    ∃ left old right, before.entries = left ++ (key, old) :: right ∧
      after.entries = left ++ (key, value) :: right

/-- The entry under the key is removed, if there is one; nothing else changes. -/
def Drops (before : Table α β) (key : α) (after : Table α β) : Prop :=
  (key ∉ before ∧ after = before) ∨
    ∃ left old right, before.entries = left ++ (key, old) :: right ∧
      after.entries = left ++ right

omit [DecidableEq α] in
/-- The entry under a key stands between entries under other keys. -/
theorem exists_entries_of_mem
    {table : Table α β} {key : α}
    (present : key ∈ table) :
    ∃ left old right, table.entries = left ++ (key, old) :: right ∧
      (∀ entry ∈ left, entry.1 ≠ key) ∧ ∀ entry ∈ right, entry.1 ≠ key := by
  rcases List.mem_map.mp present with ⟨⟨_, old⟩, member, rfl⟩
  rcases List.append_of_mem member with ⟨left, right, whole⟩
  have nodup := table.nodup
  rw [whole, List.map_append, List.map_cons, List.nodup_append] at nodup
  rcases nodup with ⟨_, rightNodup, apart⟩
  refine ⟨left, old, right, whole, ?_, ?_⟩
  · intro entry inLeft
    exact apart entry.1 (List.mem_map_of_mem inLeft) _ List.mem_cons_self
  · rintro entry inRight same
    exact (List.nodup_cons.mp rightNodup).1 (same ▸ List.mem_map_of_mem inRight)

theorem write_append_cons
    {key : α} {left : List (α × β)}
    (others : ∀ entry ∈ left, entry.1 ≠ key)
    (old value : β) (right : List (α × β)) :
    write key value (left ++ (key, old) :: right) = left ++ (key, value) :: right := by
  induction left with
  | nil => exact if_pos rfl
  | cons entry left ih =>
      rw [List.forall_mem_cons] at others
      rw [List.cons_append, write, if_neg others.1, ih others.2, List.cons_append]

theorem puts_insert (table : Table α β) (key : α) (value : β) :
    table.Puts key value (table.insert key value) := by
  by_cases present : key ∈ table
  · rcases exists_entries_of_mem present with ⟨left, old, right, whole, inLeft, _⟩
    have written : (table.insert key value).entries = write key value table.entries := rfl
    refine .inr ⟨left, old, right, whole, ?_⟩
    rw [written, whole, write_append_cons inLeft]
  · exact .inl ⟨present, entries_insert_of_not_mem present value⟩

theorem drops_erase (table : Table α β) (key : α) :
    table.Drops key (table.erase key) := by
  by_cases present : key ∈ table
  · rcases exists_entries_of_mem present with ⟨left, old, right, whole, inLeft, inRight⟩
    have kept : (table.erase key).entries = table.entries.filter (·.1 ≠ key) := rfl
    have keptLeft : left.filter (·.1 ≠ key) = left :=
      List.filter_eq_self.mpr (by simpa using inLeft)
    have keptRight : right.filter (·.1 ≠ key) = right :=
      List.filter_eq_self.mpr (by simpa using inRight)
    refine .inr ⟨left, old, right, whole, ?_⟩
    rw [kept, whole, List.filter_append, List.filter_cons, if_neg (by simp), keptLeft, keptRight]
  · refine .inl ⟨present, ext_entries (List.filter_eq_self.mpr ?_)⟩
    intro entry member
    rw [decide_eq_true_eq]
    rintro rfl
    exact present (List.mem_map_of_mem member)

section Others

variable {before after : Table α β} {key other : α} {value : β}

theorem Puts.get?_of_ne
    (puts : before.Puts key value after)
    (different : other ≠ key) :
    after.get? other = before.get? other := by
  apply Option.ext
  intro found
  rw [get?_eq_some_iff, get?_eq_some_iff]
  rcases puts with ⟨_, whole⟩ | ⟨left, old, right, earlier, later⟩
  · simp [whole, different]
  · simp [earlier, later, different]

theorem Drops.get?_of_ne
    (drops : before.Drops key after)
    (different : other ≠ key) :
    after.get? other = before.get? other := by
  rcases drops with ⟨_, rfl⟩ | ⟨left, old, right, earlier, later⟩
  · rfl
  · apply Option.ext
    intro found
    rw [get?_eq_some_iff, get?_eq_some_iff]
    simp [earlier, later, different]

end Others

/-! ## Tables that agree -/

theorem Agrees.get?_eq
    {left right : Table α β}
    (agrees : left.Agrees right) (key : α) :
    left.get? key = right.get? key :=
  agrees_iff_get?.mp agrees key

theorem Agrees.mem_iff
    {left right : Table α β}
    (agrees : left.Agrees right) {key : α} :
    key ∈ left ↔ key ∈ right := by
  rw [mem_iff_exists_get?, mem_iff_exists_get?, agrees.get?_eq]

/-! ## Changed values -/

theorem get?_mapValues (change : α → β → γ) (table : Table α β) (key : α) :
    (table.mapValues change).get? key = (table.get? key).map (change key) := by
  have changed : ∀ entries : List (α × β),
      lookup key (entries.map fun entry => (entry.1, change entry.1 entry.2)) =
        (lookup key entries).map (change key) := by
    intro entries
    induction entries with
    | nil => rfl
    | cons entry rest ih =>
        rw [List.map_cons, lookup, lookup, ih]
        split
        · rename_i same
          rw [same]
          rfl
        · rfl
  exact changed table.entries

theorem mapValues_insert
    (change : α → β → γ) (table : Table α β) (key : α) (value : β) :
    (table.insert key value).mapValues change =
      (table.mapValues change).insert key (change key value) := by
  have changed : ∀ entries : List (α × β),
      (write key value entries).map (fun entry => (entry.1, change entry.1 entry.2)) =
        write key (change key value)
          (entries.map fun entry => (entry.1, change entry.1 entry.2)) := by
    intro entries
    induction entries with
    | nil => rfl
    | cons entry rest ih =>
        rw [List.map_cons, write, write]
        split
        · rename_i same
          rw [List.map_cons, same]
        · rw [List.map_cons, ih]
  exact ext_entries (changed table.entries)

theorem mem_values_iff {table : Table α β} {value : β} :
    value ∈ table.values ↔ ∃ key, table.get? key = some value := by
  simp [values, get?_eq_some_iff]

theorem nodup_values
    {table : Table α β}
    (injective : ∀ left right value,
      table.get? left = some value → table.get? right = some value → left = right) :
    table.values.Nodup := by
  apply List.Nodup.map_on _ table.nodup_entries
  rintro ⟨left, value⟩ inLeft ⟨right, _⟩ inRight rfl
  rw [injective left right value (get?_eq_some_iff.mpr inLeft) (get?_eq_some_iff.mpr inRight)]

end Table

end RegularModels
