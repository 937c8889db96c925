import RegularModels.Event

/-!
# Outcomes of changes

A change of a model leaves a model behind also when it is refused midway.  An
outcome therefore holds the model as it is afterwards, the events announced on
the way, and the error that stopped the change, if one did.  `Outcome.each`
applies a list of changes and stops at the first that is refused.
-/

namespace RegularModels

/-- What a change leaves behind. -/
structure Outcome (σ : Type) where
  /-- The model after the change, or up to where it was stopped. -/
  model : σ
  /-- What was announced, in order. -/
  events : List Event
  error : Option ModelError
deriving DecidableEq

namespace Outcome

variable {σ τ α : Type}

/-- A change that went through silently. -/
def done (model : σ) : Outcome σ :=
  ⟨model, [], none⟩

/-- A change that went through and announced events. -/
def announce (model : σ) (events : List Event) : Outcome σ :=
  ⟨model, events, none⟩

/-- A change that was refused and left the model as it was. -/
def refuse (model : σ) (error : ModelError) : Outcome σ :=
  ⟨model, [], some error⟩

/-- The change went through. -/
def Succeeds (outcome : Outcome σ) : Prop :=
  outcome.error = none

instance (outcome : Outcome σ) : Decidable outcome.Succeeds :=
  inferInstanceAs (Decidable (outcome.error = none))

/-- View the model as part of another. -/
def map (view : σ → τ) (outcome : Outcome σ) : Outcome τ :=
  ⟨view outcome.model, outcome.events, outcome.error⟩

/-- Go on with a further change, unless the first was refused. -/
def andThen (outcome : Outcome σ) (next : σ → Outcome σ) : Outcome σ :=
  match outcome.error with
  | some _ => outcome
  | none =>
    let further := next outcome.model
    ⟨further.model, outcome.events ++ further.events, further.error⟩

/-- Apply a change for each item in turn; the first refusal stops. -/
def each (change : σ → α → Outcome σ) (model : σ) : List α → Outcome σ
  | [] => done model
  | item :: items => (change model item).andThen fun next => each change next items

@[simp]
theorem done_model (model : σ) : (done model).model = model :=
  rfl

@[simp]
theorem refuse_model (model : σ) (error : ModelError) : (refuse model error).model = model :=
  rfl

@[simp]
theorem succeeds_done (model : σ) : (done model).Succeeds :=
  rfl

theorem not_succeeds_refuse (model : σ) (error : ModelError) :
    ¬(refuse model error).Succeeds := by
  simp [Succeeds, refuse]

/-- A list of changes in two parts is the first part, then the second. -/
theorem each_append (change : σ → α → Outcome σ) (model : σ) (left right : List α) :
    each change model (left ++ right) =
      (each change model left).andThen fun next => each change next right := by
  induction left generalizing model with
  | nil => simp [each, andThen, done]
  | cons item items ih =>
    simp only [List.cons_append, each, ih]
    cases refused : (change model item).error with
    | some error => simp [andThen, refused]
    | none =>
      simp only [andThen, refused]
      split <;> simp

end Outcome

end RegularModels
