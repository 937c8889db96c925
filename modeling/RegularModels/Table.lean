/-!
# Tables in order of insertion

A table maps keys to values and remembers in which order its keys were first
inserted.  Writing to a present key changes its value in place; a new key comes
last; erasing a key and inserting it again moves it to the end.
-/

namespace RegularModels

/-- A finite map whose entries keep the order of first insertion. -/
structure Table (α β : Type) where
  /-- The entries, oldest key first. -/
  entries : List (α × β)
  nodup : (entries.map Prod.fst).Nodup

namespace Table

variable {α β γ : Type}

instance : EmptyCollection (Table α β) := ⟨⟨[], List.nodup_nil⟩⟩

instance : Inhabited (Table α β) := ⟨∅⟩

instance [DecidableEq α] [DecidableEq β] : DecidableEq (Table α β) := fun left right =>
  decidable_of_iff (left.entries = right.entries)
    ⟨fun equal => by cases left; cases right; cases equal; rfl, fun equal => equal ▸ rfl⟩

/-- The keys in order of addition. -/
def keys (table : Table α β) : List α :=
  table.entries.map Prod.fst

/-- The values, in the order of their keys. -/
def values (table : Table α β) : List β :=
  table.entries.map Prod.snd

/-- The number of keys. -/
def size (table : Table α β) : Nat :=
  table.entries.length

/-- There is no key in the table. -/
def isEmpty (table : Table α β) : Bool :=
  table.entries.isEmpty

/-- Change every value, keeping keys and order. -/
def mapValues (change : α → β → γ) (table : Table α β) : Table α γ where
  entries := table.entries.map fun entry => (entry.1, change entry.1 entry.2)
  nodup := by simpa [List.map_map, Function.comp_def] using table.nodup

variable [DecidableEq α]

/-! ## Operations on lists of entries -/

/-- The value of the first entry with this key. -/
def lookup (key : α) : List (α × β) → Option β
  | [] => none
  | (otherKey, value) :: rest => if otherKey = key then some value else lookup key rest

/-- Write a value under a key: in place if the key is present, else at the end. -/
def write (key : α) (value : β) : List (α × β) → List (α × β)
  | [] => [(key, value)]
  | (otherKey, otherValue) :: rest =>
    if otherKey = key then (otherKey, value) :: rest
    else (otherKey, otherValue) :: write key value rest

/-- Writing keeps the order of the keys; a new key comes last. -/
theorem keys_write (key : α) (value : β) (entries : List (α × β)) :
    (write key value entries).map Prod.fst =
      if key ∈ entries.map Prod.fst then entries.map Prod.fst
      else entries.map Prod.fst ++ [key] := by
  induction entries with
  | nil => simp [write]
  | cons entry rest ih =>
    obtain ⟨otherKey, otherValue⟩ := entry
    by_cases equal : otherKey = key
    · simp [write, equal]
    · have reverse : ¬key = otherKey := fun same => equal same.symm
      simp only [write, if_neg equal, List.map_cons, ih, List.mem_cons, reverse, false_or]
      split <;> simp

theorem nodup_write (key : α) (value : β) {entries : List (α × β)}
    (nodup : (entries.map Prod.fst).Nodup) : ((write key value entries).map Prod.fst).Nodup := by
  rw [keys_write]
  split
  · exact nodup
  · rename_i absent
    refine List.nodup_append.2 ⟨nodup, by simp, fun left inLeft right inRight equal => ?_⟩
    rw [List.mem_singleton] at inRight
    exact absent (inRight ▸ equal ▸ inLeft)

theorem lookup_write (key other : α) (value : β) (entries : List (α × β)) :
    lookup other (write key value entries) =
      if key = other then some value else lookup other entries := by
  induction entries with
  | nil => simp [write, lookup]
  | cons entry rest ih =>
    obtain ⟨otherKey, otherValue⟩ := entry
    by_cases equal : otherKey = key
    · subst equal
      by_cases same : otherKey = other <;> simp [write, lookup, same]
    · simp only [write, if_neg equal, lookup, ih]
      by_cases same : otherKey = other
      · simp [same, show ¬key = other from fun keyEq => equal (same.trans keyEq.symm)]
      · simp [same]

theorem lookup_eq_none_iff {key : α} {entries : List (α × β)} :
    lookup key entries = none ↔ key ∉ entries.map Prod.fst := by
  induction entries with
  | nil => simp [lookup]
  | cons entry rest ih =>
    obtain ⟨otherKey, otherValue⟩ := entry
    by_cases equal : otherKey = key
    · simp [lookup, equal]
    · simp [lookup, equal, ih, show ¬key = otherKey from fun same => equal same.symm]

theorem lookup_eq_some_iff {key : α} {value : β} {entries : List (α × β)}
    (nodup : (entries.map Prod.fst).Nodup) :
    lookup key entries = some value ↔ (key, value) ∈ entries := by
  induction entries with
  | nil => simp [lookup]
  | cons entry rest ih =>
    obtain ⟨otherKey, otherValue⟩ := entry
    obtain ⟨notLater, restNodup⟩ := List.nodup_cons.1 nodup
    by_cases equal : otherKey = key
    · subst equal
      simp only [lookup, if_pos, Option.some.injEq, List.mem_cons, Prod.mk.injEq, true_and]
      constructor
      · exact fun same => .inl same.symm
      · rintro (same | later)
        · exact same.symm
        · exact absurd (List.mem_map_of_mem later) notLater
    · have reverse : ¬key = otherKey := fun same => equal same.symm
      simp [lookup, equal, ih restNodup, reverse]

/-! ## The table -/

/-- The value under a key, if there is one. -/
def get? (table : Table α β) (key : α) : Option β :=
  lookup key table.entries

/-- Write a value under a key. -/
def insert (table : Table α β) (key : α) (value : β) : Table α β where
  entries := write key value table.entries
  nodup := nodup_write key value table.nodup

/-- Remove a key with its value. -/
def erase (table : Table α β) (key : α) : Table α β where
  entries := table.entries.filter (·.1 ≠ key)
  nodup := (List.filter_sublist.map Prod.fst).nodup table.nodup

instance : Membership α (Table α β) := ⟨fun table key => key ∈ table.keys⟩

instance (key : α) (table : Table α β) : Decidable (key ∈ table) :=
  inferInstanceAs (Decidable (key ∈ table.keys))

/-- Write entries one after the other; a later entry wins. -/
def ofList (entries : List (α × β)) : Table α β :=
  entries.foldl (fun table entry => table.insert entry.1 entry.2) ∅

@[simp]
theorem get?_empty (key : α) : (∅ : Table α β).get? key = none :=
  rfl

@[simp]
theorem get?_insert (table : Table α β) (key other : α) (value : β) :
    (table.insert key value).get? other =
      if key = other then some value else table.get? other :=
  lookup_write key other value table.entries

theorem get?_eq_none_iff {table : Table α β} {key : α} :
    table.get? key = none ↔ key ∉ table :=
  lookup_eq_none_iff

theorem get?_eq_some_iff {table : Table α β} {key : α} {value : β} :
    table.get? key = some value ↔ (key, value) ∈ table.entries :=
  lookup_eq_some_iff table.nodup

/-- A key that is there keeps its place; a new one comes last. -/
theorem keys_insert (table : Table α β) (key : α) (value : β) :
    (table.insert key value).keys =
      if key ∈ table then table.keys else table.keys ++ [key] :=
  keys_write key value table.entries

@[simp]
theorem mem_insert {table : Table α β} {key other : α} {value : β} :
    other ∈ table.insert key value ↔ other = key ∨ other ∈ table := by
  change other ∈ (table.insert key value).keys ↔ _
  rw [keys_insert]
  split
  · rename_i present
    exact ⟨.inr, fun either => either.elim (fun equal => equal ▸ present) id⟩
  · rw [List.mem_append, List.mem_singleton, or_comm]
    exact Iff.rfl

omit [DecidableEq α] in
theorem isEmpty_eq_false_iff {table : Table α β} :
    table.isEmpty = false ↔ ∃ key, key ∈ table := by
  rw [← Bool.not_eq_true, isEmpty, List.isEmpty_iff]
  constructor
  · intro some
    obtain ⟨entry, member⟩ := List.exists_mem_of_ne_nil _ some
    exact ⟨entry.1, List.mem_map_of_mem member⟩
  · rintro ⟨key, member⟩ none
    obtain ⟨entry, inEntries, _⟩ := List.mem_map.1 member
    exact absurd inEntries (none ▸ List.not_mem_nil)

/-! ## Equality up to order -/

/-- Two tables agree when they hold the same entries, in whatever order. -/
def Agrees (left right : Table α β) : Prop :=
  (∀ entry ∈ left.entries, entry ∈ right.entries) ∧
    ∀ entry ∈ right.entries, entry ∈ left.entries

instance [DecidableEq β] (left right : Table α β) : Decidable (Agrees left right) :=
  inferInstanceAs (Decidable (_ ∧ _))

theorem agrees_iff_get? {left right : Table α β} :
    Agrees left right ↔ ∀ key, left.get? key = right.get? key := by
  constructor
  · rintro ⟨forth, back⟩ key
    apply Option.ext
    intro value
    rw [get?_eq_some_iff, get?_eq_some_iff]
    exact ⟨forth _, back _⟩
  · intro same
    constructor
    · rintro ⟨key, value⟩ member
      rw [← get?_eq_some_iff] at member ⊢
      rw [← same, member]
    · rintro ⟨key, value⟩ member
      rw [← get?_eq_some_iff] at member ⊢
      rw [same, member]

end Table

end RegularModels
