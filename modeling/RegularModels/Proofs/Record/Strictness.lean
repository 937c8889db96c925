import RegularModels.Proofs.Entries
import RegularModels.Proofs.Record.Reading

/-!
# Strict and lenient readings

A strict reading does what a lenient one does as long as no transition gets another
target.  Where the lenient reading announces that for the first time, the strict one is
refused: it fails in that line for the repeated transition.
-/

namespace RegularModels

open Text (trim)

/-! ## Changes in step -/

namespace Outcome

variable {σ τ α : Type}

/--
A strict change beside the lenient one: either the lenient one announces nothing, and
the strict one does the same, or the strict one is refused for a repeated transition.
-/
def InStep
    (Lenient : σ → Prop) (strictly : σ → σ) (strict lenient : Outcome σ) : Prop :=
  (lenient.events = [] ∧ Lenient lenient.model ∧ strict = lenient.map strictly) ∨
    (lenient.events ≠ [] ∧ ∃ cause, strict.error = some cause ∧ cause.kind = .determinism)

variable {Lenient : σ → Prop} {strictly : σ → σ} {strict lenient : Outcome σ}

/-- Changes that do the same on both sides and announce nothing are in step. -/
theorem InStep.of_eq
    (silent : lenient.events = [])
    (stays : Lenient lenient.model)
    (same : strict = lenient.map strictly) :
    InStep Lenient strictly strict lenient :=
  .inl ⟨silent, stays, same⟩

theorem InStep.andThen
    (first : InStep Lenient strictly strict lenient)
    {strictNext lenientNext : σ → Outcome σ}
    (further : ∀ model, Lenient model →
      InStep Lenient strictly (strictNext (strictly model)) (lenientNext model)) :
    InStep Lenient strictly (strict.andThen strictNext) (lenient.andThen lenientNext) := by
  rcases first with ⟨silent, stays, rfl⟩ | ⟨announced, cause, refused, kind⟩
  · rcases lenient with ⟨model, events, error⟩
    subst silent
    cases error with
    | some cause => exact .inl ⟨rfl, stays, rfl⟩
    | none => exact further model stays
  · right
    refine ⟨?_, cause, ?_, kind⟩
    · rcases lenient with ⟨model, events, error⟩
      cases error with
      | some cause => exact announced
      | none => exact fun none => announced (List.append_eq_nil_iff.mp none).1
    · rw [Outcome.andThen, refused]
      exact refused

theorem InStep.each
    {change : σ → α → Outcome σ}
    (steps : ∀ model item, Lenient model →
      InStep Lenient strictly (change (strictly model) item) (change model item))
    {model : σ}
    (start : Lenient model)
    (items : List α) :
    InStep Lenient strictly (Outcome.each change (strictly model) items)
      (Outcome.each change model items) := by
  induction items generalizing model with
  | nil => exact .of_eq rfl start rfl
  | cons item rest ih => exact (steps model item start).andThen fun next stays => ih stays

theorem InStep.map
    (parts : InStep Lenient strictly strict lenient)
    {WholeLenient : τ → Prop} {wholeStrictly : τ → τ} {view strictView : σ → τ}
    (stays : ∀ model, Lenient model → WholeLenient (view model))
    (same : ∀ model, strictView (strictly model) = wholeStrictly (view model)) :
    InStep WholeLenient wholeStrictly (strict.map strictView) (lenient.map view) := by
  rcases parts with ⟨silent, part, rfl⟩ | refused
  · refine .inl ⟨silent, stays _ part, ?_⟩
    simp only [Outcome.map, same]
  · exact .inr refused

end Outcome

/-! ## Automata -/

namespace Automaton

/-- The automaton with the rule that no transition is put in place of another. -/
def strictly (automaton : Automaton) : Automaton :=
  { automaton with strict := true }

/-- The automaton allows a transition to be put in place of another. -/
def Lenient (automaton : Automaton) : Prop :=
  automaton.strict = false

variable {automaton : Automaton}

/-- A strict automaton does what a lenient one does, or stops where that one overwrites. -/
theorem inStep_insertTransition (lenient : automaton.Lenient) (transition : Transition) :
    Outcome.InStep Lenient strictly (automaton.strictly.insertTransition transition)
      (automaton.insertTransition transition) := by
  have undeclared : automaton.strictly.undeclared? transition =
      automaton.undeclared? transition := rfl
  have targets : automaton.strictly.target? transition.source transition.symbol =
      automaton.target? transition.source transition.symbol := rfl
  simp only [insertTransition, undeclared, targets]
  cases automaton.undeclared? transition with
  | some error => exact .of_eq rfl lenient rfl
  | none =>
      cases automaton.target? transition.source transition.symbol with
      | none => exact .of_eq rfl lenient rfl
      | some previous =>
          right
          have keeps : automaton.strict = false := lenient
          simp [keeps, strictly, Outcome.announce, Outcome.refuse, ModelError.kind]

theorem inStep_addPiece (lenient : automaton.Lenient) (piece : String) :
    Outcome.InStep Lenient strictly (automaton.strictly.addPiece piece)
      (automaton.addPiece piece) := by
  unfold addPiece
  cases Transition.ofText? piece with
  | some transition => exact inStep_insertTransition lenient transition
  | none => exact .of_eq rfl lenient rfl

theorem inStep_setField
    (lenient : automaton.Lenient) (field : AutomatonField) (payload : String) :
    Outcome.InStep Lenient strictly (automaton.strictly.setField field payload)
      (automaton.setField field payload) := by
  cases field with
  | states | alphabet => exact .of_eq rfl lenient rfl
  | initial =>
      have states : automaton.strictly.states = automaton.states := rfl
      simp only [setField, setInitial, states]
      split <;> exact .of_eq rfl lenient rfl
  | finals =>
      have states : automaton.strictly.states = automaton.states := rfl
      simp only [setField, setFinals, states]
      split <;> exact .of_eq rfl lenient rfl
  | transitions => exact .each (fun _ piece stays => inStep_addPiece stays piece) lenient _

end Automaton

/-! ## Catalogs -/

namespace Catalog

/-- The catalog with all its automata strict, and those that it will read. -/
def strictly (catalog : Catalog) : Catalog where
  strict := true
  automata := catalog.automata.mapValues fun _ automaton => automaton.strictly
  grammars := catalog.grammars

/-- All automata of the catalog, and those that it creates, are lenient. -/
structure Lenient (catalog : Catalog) : Prop where
  new : catalog.strict = false
  automata : ∀ name automaton, catalog.automata.get? name = some automaton → automaton.Lenient

variable {catalog : Catalog}

theorem lenient_new : ({} : Catalog).Lenient where
  new := rfl
  automata := by simp

theorem Lenient.automaton (lenient : catalog.Lenient) (name : String) :
    (catalog.automaton name).Lenient := by
  unfold Catalog.automaton
  cases found : catalog.automata.get? name with
  | none => exact lenient.new
  | some automaton => exact lenient.automata name automaton found

theorem Lenient.putAutomaton
    (lenient : catalog.Lenient)
    {automaton : Automaton}
    (stays : automaton.Lenient)
    (name : String) :
    (catalog.putAutomaton name automaton).Lenient where
  new := lenient.new
  automata := by
    intro other found member
    rcases Table.get?_insert_eq_some_iff.mp member with ⟨_, rfl⟩ | ⟨_, old⟩
    · exact stays
    · exact lenient.automata other found old

theorem automaton_strictly (catalog : Catalog) (name : String) :
    catalog.strictly.automaton name = (catalog.automaton name).strictly := by
  simp only [Catalog.automaton, strictly, Table.get?_mapValues]
  cases catalog.automata.get? name with
  | none => rfl
  | some automaton => rfl

/-- A strict catalog does what a lenient one does, or stops where that one overwrites. -/
theorem inStep_applyRecord (lenient : catalog.Lenient) (record : Record) :
    Outcome.InStep Lenient strictly (catalog.strictly.applyRecord record)
      (catalog.applyRecord record) := by
  rcases record with ⟨field, name, payload⟩
  cases field with
  | automaton field =>
      simp only [applyRecord, automaton_strictly]
      apply (Automaton.inStep_setField (lenient.automaton name) field payload).map
      · exact fun _ stays => lenient.putAutomaton stays name
      · intro automaton
        simp only [putAutomaton, strictly, Table.mapValues_insert]
  | grammar field =>
      refine .of_eq ?_ ⟨lenient.new, lenient.automata⟩ rfl
      exact Grammar.events_setField _ field payload

theorem inStep_applyLine (lenient : catalog.Lenient) (line : String) :
    Outcome.InStep Lenient strictly (catalog.strictly.applyLine line)
      (catalog.applyLine line) := by
  unfold applyLine
  cases Record.ofLine line with
  | ok record => exact inStep_applyRecord lenient record
  | error cause => exact .of_eq rfl lenient rfl

theorem inStep_applyEach (lenient : catalog.Lenient) (lines : List String) :
    Outcome.InStep Lenient strictly (catalog.strictly.applyEach lines)
      (catalog.applyEach lines) := by
  apply Outcome.InStep.each _ lenient
  intro reached line stays
  exact inStep_applyLine stays (trim line)

/-! ## Readings -/

variable {content : String}

/-- A reading is quiet about overwrites when its lines announce nothing. -/
theorem not_isOverwrite_read_iff :
    (∀ event ∈ (catalog.read content).events, ¬event.IsOverwrite) ↔
      (catalog.applyEach (contentLines content)).events = [] := by
  rcases catalog.exists_report_of_read content with ⟨report, isReport, events⟩
  rw [events, List.forall_mem_append, List.eq_nil_iff_forall_not_mem]
  constructor
  · rintro ⟨quiet, _⟩ event member
    exact quiet event member (catalog.isOverwrite_of_mem_events_applyEach _ event member)
  · intro none
    refine ⟨fun event member => absurd member (none event), ?_⟩
    intro event member overwrite
    rw [List.mem_singleton.mp member] at overwrite
    exact overwrite.not_isReport isReport

/--
The lines before the one with this number are accepted and overwrite nothing, and this
one announces an overwrite; the reading announces all that, and then what comes later.
-/
def FirstOverwrite (catalog : Catalog) (content : String) (number : Nat) : Prop :=
  ∃ before line after later,
    contentLines content = before ++ line :: after ∧
      number = before.length + 1 ∧
      (catalog.applyEach before).Succeeds ∧
      (∀ event ∈ (catalog.applyEach before).events, ¬event.IsOverwrite) ∧
      (∃ event ∈ ((catalog.applyEach before).model.applyLine (trim line)).events,
        event.IsOverwrite) ∧
      (catalog.read content).events =
        (catalog.applyEach before).events ++
          ((catalog.applyEach before).model.applyLine (trim line)).events ++ later

/-- What a reading announces begins with what the lines announce up to any line. -/
theorem exists_later_events
    {before after : List String} {line : String}
    (cut : contentLines content = before ++ line :: after)
    (went : (catalog.applyEach before).Succeeds) :
    ∃ later, (catalog.read content).events =
      (catalog.applyEach before).events ++
        ((catalog.applyEach before).model.applyLine (trim line)).events ++ later := by
  rcases catalog.exists_report_of_read content with ⟨report, _, events⟩
  rcases Outcome.exists_events_andThen ((catalog.applyEach before).model.applyLine (trim line))
    (fun next => next.applyEach after) with ⟨rest, further⟩
  refine ⟨rest ++ [report], ?_⟩
  rw [events, cut, applyEach_append, Outcome.andThen_of_succeeds went, applyEach_cons, further]
  simp only [List.append_assoc]

/-- The line in which a strict reading fails is that of the lenient failure or overwrite. -/
theorem read_of_strictly_fails
    (lenient : catalog.Lenient)
    {failure : LineFailure}
    (failed : (catalog.strictly.read content).failure = some failure) :
    ((catalog.read content).failure = some failure ∧
        ∀ event ∈ (catalog.read content).events, ¬event.IsOverwrite) ∨
      (failure.cause.kind = .determinism ∧
        catalog.FirstOverwrite content failure.lineNumber) := by
  rcases failure_read_eq_some_iff.mp failed with ⟨before, after, cut, numbered, went, stopped⟩
  -- The strict reading came through the lines before, so the lenient one did the same there.
  rcases inStep_applyEach lenient before with ⟨silent, stays, same⟩ | ⟨_, cause, refused, _⟩
  · rw [same, Outcome.succeeds_map_iff] at went
    rw [same, Outcome.map_model] at stopped
    rcases inStep_applyLine stays (trim failure.line) with
      ⟨silentHere, _, sameHere⟩ | ⟨announced, cause, refused, kind⟩
    · left
      rw [sameHere, Outcome.map_error] at stopped
      refine ⟨failure_read_eq_some_iff.mpr ⟨before, after, cut, numbered, went, stopped⟩, ?_⟩
      rw [not_isOverwrite_read_iff, cut, applyEach_append, Outcome.andThen_of_succeeds went,
        applyEach_cons, Outcome.andThen_of_error stopped, silent, silentHere]
      rfl
    · right
      have causes : some cause = some failure.cause := refused.symm.trans stopped
      rcases exists_later_events cut went with ⟨later, events⟩
      rw [← Option.some.inj causes]
      refine ⟨kind, before, failure.line, after, later, cut, ?_, went, ?_, ?_, events⟩
      · rw [numbered, Nat.add_comm]
      · simp [silent]
      · rcases List.exists_mem_of_ne_nil _ announced with ⟨event, member⟩
        exact ⟨event, member, isOverwrite_of_mem_events_applyLine _ _ event member⟩
  · exact absurd (went.symm.trans refused) (Option.some_ne_none cause).symm

/-- A strict reading goes through when the lenient one does and overwrites nothing. -/
theorem strictly_read_succeeds_iff (lenient : catalog.Lenient) :
    (catalog.strictly.applyEach (contentLines content)).Succeeds ↔
      (catalog.applyEach (contentLines content)).Succeeds ∧
        (catalog.applyEach (contentLines content)).events = [] := by
  rcases inStep_applyEach lenient (contentLines content) with
    ⟨silent, _, same⟩ | ⟨announced, cause, refused, _⟩
  · rw [same, silent]
    exact (and_iff_left rfl).symm
  · rw [Outcome.Succeeds, refused]
    constructor
    · exact fun none => absurd none (Option.some_ne_none cause)
    · exact fun quiet => absurd quiet.2 announced

/--
A strict reading succeeds when the lenient one does without an overwrite, and then they
lead to the same models.  When it fails, the lenient reading either fails in the same
way and has overwritten nothing, or its first overwrite is announced in the line that
the strict reading fails in for a repeated transition.
-/
theorem read_strict (content : String) :
    ((({ strict := true } : Catalog).read content).failure = none ↔
        (({} : Catalog).read content).failure = none ∧
          ∀ event ∈ (({} : Catalog).read content).events, ¬event.IsOverwrite) ∧
      ((({ strict := true } : Catalog).read content).failure = none →
        (({ strict := true } : Catalog).read content).catalog =
          (({} : Catalog).read content).catalog.strictly) ∧
      ∀ failure, (({ strict := true } : Catalog).read content).failure = some failure →
        ((({} : Catalog).read content).failure = some failure ∧
            ∀ event ∈ (({} : Catalog).read content).events, ¬event.IsOverwrite) ∨
          (failure.cause.kind = .determinism ∧
            ({} : Catalog).FirstOverwrite content failure.lineNumber) := by
  have new : ({ strict := true } : Catalog) = ({} : Catalog).strictly := rfl
  rw [new]
  refine ⟨?_, ?_, fun failure => read_of_strictly_fails lenient_new⟩
  · rw [failure_read_eq_none_iff, failure_read_eq_none_iff, not_isOverwrite_read_iff]
    exact strictly_read_succeeds_iff lenient_new
  · intro accepted
    have strictWent := failure_read_eq_none_iff.mp accepted
    have went := ((strictly_read_succeeds_iff lenient_new).mp strictWent).1
    rw [read_of_succeeds strictWent, read_of_succeeds went]
    rcases inStep_applyEach lenient_new (contentLines content) with
      ⟨_, _, same⟩ | ⟨_, cause, refused, _⟩
    · exact congrArg Outcome.model same
    · exact absurd (strictWent.symm.trans refused) (Option.some_ne_none cause).symm

/-- A pair that is repeated within one record. -/
theorem read_strict_repeated :
    (({} : Catalog).read "1:m:q\n2:m:a\n5:m:q,a,q;q,a,q").failure = none ∧
      ∃ failure,
        (({ strict := true } : Catalog).read "1:m:q\n2:m:a\n5:m:q,a,q;q,a,q").failure =
            some failure ∧
          failure.cause.kind = .determinism ∧
          ({} : Catalog).FirstOverwrite "1:m:q\n2:m:a\n5:m:q,a,q;q,a,q" failure.lineNumber := by
  have accepted : (({} : Catalog).read "1:m:q\n2:m:a\n5:m:q,a,q;q,a,q").failure = none := by
    decide +kernel
  have refused :
      (({ strict := true } : Catalog).read "1:m:q\n2:m:a\n5:m:q,a,q;q,a,q").failure ≠ none := by
    decide +kernel
  rcases Option.ne_none_iff_exists'.mp refused with ⟨failure, failed⟩
  refine ⟨accepted, failure, failed, ?_⟩
  rcases (read_strict "1:m:q\n2:m:a\n5:m:q,a,q;q,a,q").2.2 failure failed with
    ⟨sameFailure, _⟩ | repeated
  · exact absurd (accepted.symm.trans sameFailure) (Option.some_ne_none failure).symm
  · exact repeated

end Catalog

end RegularModels
