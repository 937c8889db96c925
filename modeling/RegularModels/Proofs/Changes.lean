import RegularModels.Outcome

/-!
# Sequences of changes

What a change after a change, and a list of changes, leave behind.  What every single
change keeps is kept by the list, also when it is stopped midway, and what stops a list
or is announced by it comes from one of its changes.
-/

namespace RegularModels.Outcome

variable {σ τ α : Type}

@[simp]
theorem map_model (view : σ → τ) (outcome : Outcome σ) :
    (outcome.map view).model = view outcome.model :=
  rfl

@[simp]
theorem map_error (view : σ → τ) (outcome : Outcome σ) :
    (outcome.map view).error = outcome.error :=
  rfl

@[simp]
theorem succeeds_map_iff {view : σ → τ} {outcome : Outcome σ} :
    (outcome.map view).Succeeds ↔ outcome.Succeeds :=
  Iff.rfl

/-! ## One change after another -/

/-- After a change that went through, the next one is made, and both announce. -/
theorem andThen_of_succeeds
    {outcome : Outcome σ}
    (went : outcome.Succeeds)
    (next : σ → Outcome σ) :
    outcome.andThen next =
      ⟨(next outcome.model).model,
        outcome.events ++ (next outcome.model).events,
        (next outcome.model).error⟩ := by
  rw [andThen, went]

/-- After a change that was refused, nothing more happens. -/
theorem andThen_of_error
    {outcome : Outcome σ} {cause : ModelError}
    (refused : outcome.error = some cause)
    (next : σ → Outcome σ) :
    outcome.andThen next = outcome := by
  rw [andThen, refused]

@[simp]
theorem andThen_done
    (model : σ) (next : σ → Outcome σ) :
    (done model).andThen next = next model := by
  rw [andThen_of_succeeds (succeeds_done model)]
  rfl

@[simp]
theorem andThen_announce
    (model : σ) (events : List Event) (next : σ → Outcome σ) :
    (announce model events).andThen next =
      ⟨(next model).model, events ++ (next model).events, (next model).error⟩ :=
  rfl

@[simp]
theorem andThen_done_right (outcome : Outcome σ) : outcome.andThen done = outcome := by
  rcases outcome with ⟨model, events, error⟩
  cases error <;> simp [andThen, done]

/-- Two changes go through when each of them does. -/
theorem succeeds_andThen_iff
    {outcome : Outcome σ} {next : σ → Outcome σ} :
    (outcome.andThen next).Succeeds ↔
      outcome.Succeeds ∧ (next outcome.model).Succeeds := by
  rcases outcome with ⟨model, events, error⟩
  cases error <;> simp [andThen, Succeeds]

/-- What stops two changes stops the first, or the second behind it. -/
theorem error_andThen
    {outcome : Outcome σ} {next : σ → Outcome σ} {cause : ModelError}
    (refused : (outcome.andThen next).error = some cause) :
    outcome.error = some cause ∨
      outcome.Succeeds ∧ (next outcome.model).error = some cause := by
  cases first : outcome.error with
  | none =>
      rw [andThen_of_succeeds first] at refused
      exact .inr ⟨first, refused⟩
  | some earlier =>
      rw [andThen_of_error first, first] at refused
      exact .inl refused

/-- What the first change announces comes first. -/
theorem exists_events_andThen (outcome : Outcome σ) (next : σ → Outcome σ) :
    ∃ later, (outcome.andThen next).events = outcome.events ++ later := by
  rw [andThen]
  split
  · exact ⟨[], (List.append_nil _).symm⟩
  · exact ⟨_, rfl⟩

theorem mem_events_andThen
    {outcome : Outcome σ} {next : σ → Outcome σ} {event : Event}
    (member : event ∈ (outcome.andThen next).events) :
    event ∈ outcome.events ∨ event ∈ (next outcome.model).events := by
  rw [andThen] at member
  split at member
  · exact .inl member
  · exact List.mem_append.mp member

/-- A change that leads to a model with a property does so on its own or by what follows. -/
theorem andThen_model_of
    (Holds : σ → Prop)
    {outcome : Outcome σ}
    {next : σ → Outcome σ}
    (first : Holds outcome.model)
    (further : Holds (next outcome.model).model) :
    Holds (outcome.andThen next).model := by
  rw [andThen]
  split
  · exact first
  · exact further

/-! ## Lists of changes -/

theorem each_concat
    (change : σ → α → Outcome σ) (model : σ) (items : List α) (item : α) :
    each change model (items ++ [item]) =
      (each change model items).andThen fun next => change next item := by
  rw [each_append]
  simp only [each, andThen_done_right]

theorem succeeds_each_concat_iff
    {change : σ → α → Outcome σ} {model : σ} {items : List α} {item : α} :
    (each change model (items ++ [item])).Succeeds ↔
      (each change model items).Succeeds ∧
        (change (each change model items).model item).Succeeds := by
  rw [each_concat, succeeds_andThen_iff]

theorem model_each_concat
    {change : σ → α → Outcome σ} {model : σ} {items : List α}
    (went : (each change model items).Succeeds)
    (item : α) :
    (each change model (items ++ [item])).model =
      (change (each change model items).model item).model := by
  rw [each_concat, andThen_of_succeeds went]

/-- What every change of a list keeps is kept by the list, however far it comes. -/
theorem each_model_of_mem
    (Holds : σ → Prop)
    {change : σ → α → Outcome σ}
    {items : List α}
    (kept : ∀ model, ∀ item ∈ items, Holds model → Holds (change model item).model)
    {model : σ}
    (holds : Holds model) :
    Holds (each change model items).model := by
  induction items generalizing model with
  | nil => exact holds
  | cons item rest ih =>
      have first := kept model item List.mem_cons_self holds
      have later := fun model item member => kept model item (List.mem_cons_of_mem _ member)
      rw [each]
      exact andThen_model_of Holds first (ih later first)

/-- What every change keeps, changes by a list keep. -/
theorem each_model_of
    (Holds : σ → Prop)
    {change : σ → α → Outcome σ}
    (kept : ∀ model item, Holds model → Holds (change model item).model)
    {model : σ}
    (holds : Holds model)
    (items : List α) :
    Holds (each change model items).model :=
  each_model_of_mem Holds (fun model item _ => kept model item) holds

/-- What stops a list of changes stops one of them, behind others that keep a property. -/
theorem error_each
    (Holds : σ → Prop)
    {change : σ → α → Outcome σ}
    (kept : ∀ model item, Holds model → Holds (change model item).model)
    {model : σ}
    (holds : Holds model)
    {items : List α} {cause : ModelError}
    (refused : (each change model items).error = some cause) :
    ∃ reached, Holds reached ∧ ∃ item ∈ items, (change reached item).error = some cause := by
  induction items generalizing model with
  | nil => cases refused
  | cons item rest ih =>
      rcases error_andThen refused with here | ⟨_, later⟩
      · exact ⟨model, holds, item, List.mem_cons_self, here⟩
      · rcases ih (kept model item holds) later with ⟨reached, kept, other, member, stopped⟩
        exact ⟨reached, kept, other, List.mem_cons_of_mem _ member, stopped⟩

/-- Everything that a list of changes announces is announced by one of them. -/
theorem each_events_of
    (Holds : Event → Prop)
    {change : σ → α → Outcome σ}
    (announces : ∀ model item, ∀ event ∈ (change model item).events, Holds event)
    (model : σ) (items : List α) :
    ∀ event ∈ (each change model items).events, Holds event := by
  induction items generalizing model with
  | nil => simp [each, done]
  | cons item rest ih =>
      intro event member
      rcases mem_events_andThen member with first | later
      · exact announces model item event first
      · exact ih _ event later

/-- A list of changes that announce nothing announces nothing. -/
theorem each_events_eq_nil
    {change : σ → α → Outcome σ}
    (silent : ∀ model item, (change model item).events = [])
    (model : σ) (items : List α) :
    (each change model items).events = [] := by
  apply List.eq_nil_iff_forall_not_mem.mpr
  apply each_events_of (fun _ => False)
  intro model item event member
  simp [silent] at member

end RegularModels.Outcome
