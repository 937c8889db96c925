import Mathlib.Data.List.Induction
import RegularModels.Proofs.Changes

/-!
# Conditions and results of changes

A change is guarded by a condition when it goes through exactly under that condition,
and then leads to a model with a given property.  Changes one after the other, and
lists of changes, are guarded by the conditions of their parts.
-/

namespace RegularModels

/-! ## Lists whose items fit together -/

/-- A list with one item more is cut at that item, or at an item before it. -/
theorem concat_eq_append_cons_iff
    {α : Type} {items before after : List α} {item other : α} :
    items ++ [item] = before ++ other :: after ↔
      (after = [] ∧ items = before ∧ item = other) ∨
        ∃ init, after = init ++ [item] ∧ items = before ++ other :: init := by
  constructor
  · intro equal
    rcases List.eq_nil_or_concat after with rfl | ⟨init, final, rfl⟩
    · rcases List.append_inj' equal rfl with ⟨same, last⟩
      exact .inl ⟨rfl, same, List.singleton_inj.mp last⟩
    · rw [List.concat_eq_append, ← List.cons_append, ← List.append_assoc] at equal
      rcases List.append_inj' equal rfl with ⟨same, last⟩
      exact .inr ⟨init, by rw [List.concat_eq_append, last], same⟩
  · rintro (⟨rfl, rfl, rfl⟩ | ⟨init, rfl, rfl⟩)
    · rfl
    · rw [List.append_assoc, List.cons_append]

section InTurn

variable {α : Type} {Fits : List α → α → Prop} {items : List α} {item : α}

/-- Every item fits behind the items before it. -/
def InTurn (Fits : List α → α → Prop) (items : List α) : Prop :=
  ∀ before item after, items = before ++ item :: after → Fits before item

theorem inTurn_nil : InTurn Fits [] := by
  intro before item after equal
  simp at equal

theorem inTurn_concat_iff :
    InTurn Fits (items ++ [item]) ↔ InTurn Fits items ∧ Fits items item := by
  constructor
  · intro fits
    refine ⟨fun before other after equal => ?_, fits items item [] rfl⟩
    apply fits before other (after ++ [item])
    rw [equal, List.append_assoc, List.cons_append]
  · rintro ⟨earlier, last⟩ before other after equal
    rcases concat_eq_append_cons_iff.mp equal with ⟨_, rfl, rfl⟩ | ⟨init, _, parts⟩
    · exact last
    · exact earlier before other init parts

/-- When it does not matter what comes before, every item fits on its own. -/
theorem inTurn_const_iff {Acceptable : α → Prop} :
    InTurn (fun _ => Acceptable) items ↔ ∀ item ∈ items, Acceptable item := by
  constructor
  · intro fits item member
    rcases List.append_of_mem member with ⟨before, after, equal⟩
    exact fits before item after equal
  · rintro acceptable before item after rfl
    exact acceptable item (by simp)

end InTurn

/-! ## Guarded changes -/

namespace Outcome

variable {σ τ α ι : Type} {outcome : Outcome σ} {condition : Prop} {Holds : σ → Prop}

/-- The change goes through under the condition only, and then to a model with the property. -/
structure Guarded (condition : Prop) (Holds : σ → Prop) (outcome : Outcome σ) : Prop where
  succeeds : outcome.Succeeds ↔ condition
  model : condition → Holds outcome.model

theorem Guarded.of_succeeds
    (met : condition)
    (went : outcome.Succeeds)
    (holds : Holds outcome.model) :
    outcome.Guarded condition Holds :=
  ⟨iff_of_true went met, fun _ => holds⟩

theorem Guarded.of_refuse
    (unmet : ¬condition)
    (model : σ) (error : ModelError) :
    (refuse model error).Guarded condition Holds :=
  ⟨iff_of_false (not_succeeds_refuse model error) unmet, fun met => absurd met unmet⟩

theorem Guarded.congr
    (guarded : outcome.Guarded condition Holds)
    {other : Prop}
    (same : condition ↔ other) :
    outcome.Guarded other Holds :=
  ⟨guarded.succeeds.trans same, fun met => guarded.model (same.mpr met)⟩

theorem Guarded.imp
    (guarded : outcome.Guarded condition Holds)
    {Later : σ → Prop}
    (later : ∀ model, Holds model → Later model) :
    outcome.Guarded condition Later :=
  ⟨guarded.succeeds, fun met => later _ (guarded.model met)⟩

/-- Two guarded changes are guarded by both of their conditions. -/
theorem Guarded.andThen
    (first : outcome.Guarded condition Holds)
    {next : σ → Outcome σ} {further : Prop} {Later : σ → Prop}
    (second : ∀ model, Holds model → (next model).Guarded further Later) :
    (outcome.andThen next).Guarded (condition ∧ further) Later := by
  constructor
  · rw [succeeds_andThen_iff, first.succeeds]
    exact and_congr_right fun met => (second _ (first.model met)).succeeds
  · rintro ⟨met, metLater⟩
    rw [andThen_of_succeeds (first.succeeds.mpr met)]
    exact (second _ (first.model met)).model metLater

theorem Guarded.map
    (guarded : outcome.Guarded condition Holds)
    {view : σ → τ} {Later : τ → Prop}
    (viewed : ∀ model, Holds model → Later (view model)) :
    (outcome.map view).Guarded condition Later :=
  ⟨guarded.succeeds, fun met => viewed _ (guarded.model met)⟩

/--
A list of changes is guarded by the condition that its items fit behind each other, if
every change is guarded by its own when the model is described by the items before it.
-/
theorem guarded_each
    {Fits : List α → α → Prop}
    (Described : List α → σ → Prop)
    {change : σ → α → Outcome σ}
    (step : ∀ model before item, Described before model →
      (change model item).Guarded (Fits before item) (Described (before ++ [item])))
    {model : σ}
    (start : Described [] model)
    (items : List α) :
    (each change model items).Guarded (InTurn Fits items) (Described items) := by
  -- From the end: the condition of an item speaks about the items before it.
  induction items using List.reverseRecOn with
  | nil => exact .of_succeeds inTurn_nil rfl start
  | append_singleton items item ih =>
      rw [each_concat]
      exact (ih.andThen fun next described => step next items item described).congr
        inTurn_concat_iff.symm

/--
Items that are read and then added step by step are accepted when every one of them can
be read and what is read is acceptable, and all that is read is then added.
-/
theorem guarded_each_read
    {change : σ → α → Outcome σ}
    {read? : α → Option ι} {Acceptable : ι → Prop} {step : σ → ι → σ} {start : σ}
    (guarded : ∀ (earlier : List ι) item, (change (earlier.foldl step start) item).Guarded
      (∃ part, read? item = some part ∧ Acceptable part)
      (· = (read? item).toList.foldl step (earlier.foldl step start)))
    (items : List α) :
    (each change start items).Guarded
      (∀ item ∈ items, ∃ part, read? item = some part ∧ Acceptable part)
      (· = (items.filterMap read?).foldl step start) := by
  apply Guarded.congr _ inTurn_const_iff
  apply guarded_each (fun before reached => reached = (before.filterMap read?).foldl step start)
  · rintro _ before item rfl
    apply (guarded (before.filterMap read?) item).imp
    rintro _ rfl
    rw [List.filterMap_append, ← List.foldl_append]
    cases found : read? item <;> simp [found]
  · rfl

end Outcome

end RegularModels
