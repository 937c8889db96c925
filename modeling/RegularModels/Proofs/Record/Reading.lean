import RegularModels.Proofs.Automaton.Overwrites
import RegularModels.Proofs.Changes
import RegularModels.Record.Catalog

/-!
# Readings of descriptions

Reading a description applies its lines that are not blank one after the other.  So a
reading succeeds when every line is accepted in the catalog that the lines before it
have left, and otherwise it fails at the first line that is refused there.  All that
the lines announce are transitions that got another target; the report about the
whole reading comes last.
-/

namespace RegularModels

open Text (trim)

/-- The event reports how a reading ended. -/
def Event.IsReport : Event → Prop
  | recordParseFailed _ | recordsParsed .. => True
  | _ => False

instance : DecidablePred Event.IsReport
  | .recordParseFailed _ | .recordsParsed .. => isTrue trivial
  | .transitionOverwrite .. | .wordRecognized .. => isFalse id
  | .automatonConverted .. | .grammarConverted .. => isFalse id

theorem Event.IsOverwrite.not_isReport
    {event : Event}
    (overwrite : event.IsOverwrite) :
    ¬event.IsReport := by
  cases event with
  | transitionOverwrite => exact id
  | _ => exact overwrite.elim

/-! ## What lines announce -/

theorem Automaton.isOverwrite_of_mem_events_setField
    (automaton : Automaton) (field : AutomatonField) (payload : String) :
    ∀ event ∈ (automaton.setField field payload).events, event.IsOverwrite := by
  cases field with
  | states | alphabet => simp [Automaton.setField, Outcome.done]
  | initial =>
      simp only [Automaton.setField, Automaton.setInitial]
      split <;> simp [Outcome.done, Outcome.refuse]
  | finals =>
      simp only [Automaton.setField, Automaton.setFinals]
      split <;> simp [Outcome.done, Outcome.refuse]
  | transitions =>
      exact automaton.isOverwrite_of_mem_events_addTransitions payload

theorem Grammar.events_addPiece (grammar : Grammar) (piece : String) :
    (grammar.addPiece piece).events = [] := by
  unfold Grammar.addPiece
  split
  · unfold Grammar.insertProduction
    split <;> rfl
  · rfl

theorem Grammar.events_setField (grammar : Grammar) (field : GrammarField) (payload : String) :
    (grammar.setField field payload).events = [] := by
  cases field with
  | nonTerminals | terminals => rfl
  | start =>
      simp only [Grammar.setField, Grammar.setStart]
      split <;> rfl
  | productions => exact Outcome.each_events_eq_nil events_addPiece grammar _

namespace Catalog

/-- A record announces nothing but overwriting. -/
theorem isOverwrite_of_mem_events_applyRecord (catalog : Catalog) (record : Record) :
    ∀ event ∈ (catalog.applyRecord record).events, event.IsOverwrite := by
  unfold applyRecord
  split
  · exact Automaton.isOverwrite_of_mem_events_setField _ _ _
  · intro event member
    rw [Outcome.map, Grammar.events_setField] at member
    simp at member

theorem isOverwrite_of_mem_events_applyLine (catalog : Catalog) (line : String) :
    ∀ event ∈ (catalog.applyLine line).events, event.IsOverwrite := by
  unfold applyLine
  split
  · exact catalog.isOverwrite_of_mem_events_applyRecord _
  · simp [Outcome.refuse]

/-! ## Lines in turn -/

/-- Apply lines one after the other, up to the first that is refused. -/
def applyEach (catalog : Catalog) (lines : List String) : Outcome Catalog :=
  .each (fun catalog line => catalog.applyLine (trim line)) catalog lines

variable {catalog : Catalog} {lines : List String}

/-- Lines announce nothing but overwriting. -/
theorem isOverwrite_of_mem_events_applyEach (catalog : Catalog) (lines : List String) :
    ∀ event ∈ (catalog.applyEach lines).events, event.IsOverwrite :=
  Outcome.each_events_of _
    (fun catalog line => catalog.isOverwrite_of_mem_events_applyLine (trim line)) catalog lines

theorem strict_applyRecord (catalog : Catalog) (record : Record) :
    (catalog.applyRecord record).model.strict = catalog.strict := by
  unfold applyRecord
  split <;> rfl

theorem strict_applyLine (catalog : Catalog) (line : String) :
    (catalog.applyLine line).model.strict = catalog.strict := by
  unfold applyLine
  split
  · exact catalog.strict_applyRecord _
  · rfl

theorem strict_applyEach (catalog : Catalog) (lines : List String) :
    (catalog.applyEach lines).model.strict = catalog.strict :=
  Outcome.each_model_of (fun reached : Catalog => reached.strict = catalog.strict)
    (fun reached line kept => (reached.strict_applyLine (trim line)).trans kept) rfl lines

/-- Lines in two parts are applied one part after the other. -/
theorem applyEach_append (catalog : Catalog) (before after : List String) :
    catalog.applyEach (before ++ after) =
      (catalog.applyEach before).andThen fun next => next.applyEach after :=
  Outcome.each_append _ _ _ _

theorem applyEach_cons (catalog : Catalog) (line : String) (rest : List String) :
    catalog.applyEach (line :: rest) =
      (catalog.applyLine (trim line)).andThen fun next => next.applyEach rest :=
  rfl

section Accepted

variable {line : String} (accepted : (catalog.applyLine (trim line)).Succeeds)
include accepted

theorem succeeds_applyEach_cons_iff (rest : List String) :
    (catalog.applyEach (line :: rest)).Succeeds ↔
      ((catalog.applyLine (trim line)).model.applyEach rest).Succeeds := by
  rw [applyEach_cons, Outcome.succeeds_andThen_iff]
  exact and_iff_right accepted

theorem model_applyEach_cons (rest : List String) :
    (catalog.applyEach (line :: rest)).model =
      ((catalog.applyLine (trim line)).model.applyEach rest).model := by
  rw [applyEach_cons, Outcome.andThen_of_succeeds accepted]

end Accepted

/-- Without its numbers, applying lines is applying each of them. -/
theorem applyLines_eq_applyEach (catalog : Catalog) (number : Nat) (lines : List String) :
    ⟨(catalog.applyLines number lines).catalog, (catalog.applyLines number lines).events,
        (catalog.applyLines number lines).failure.map (·.cause)⟩ =
      catalog.applyEach lines := by
  induction lines generalizing catalog number with
  | nil => rfl
  | cons line rest ih =>
      rw [applyEach_cons, applyLines]
      rcases catalog.applyLine (trim line) with ⟨reached, events, error⟩
      cases error with
      | some cause => rfl
      | none =>
          have later := ih reached (number + 1)
          simp only [Outcome.andThen, ← later]

/-- Numbering the lines does not change what they lead to. -/
theorem applyLines_catalog (catalog : Catalog) (number : Nat) (lines : List String) :
    (catalog.applyLines number lines).catalog = (catalog.applyEach lines).model := by
  rw [← applyLines_eq_applyEach catalog number]

theorem applyLines_events (catalog : Catalog) (number : Nat) (lines : List String) :
    (catalog.applyLines number lines).events = (catalog.applyEach lines).events := by
  rw [← applyLines_eq_applyEach catalog number]

theorem applyLines_failure_eq_none_iff {number : Nat} :
    (catalog.applyLines number lines).failure = none ↔ (catalog.applyEach lines).Succeeds := by
  rw [← applyLines_eq_applyEach catalog number, Outcome.Succeeds, Option.map_eq_none_iff]

/--
The failure is that of the first line that is refused: the lines before it are
accepted one after the other, and it is refused in the catalog that they leave.  Its
number counts the lines from `number`.
-/
def FailsFirst
    (catalog : Catalog) (number : Nat) (lines : List String) (failure : LineFailure) : Prop :=
  ∃ before after,
    lines = before ++ failure.line :: after ∧
      failure.lineNumber = number + before.length ∧
      (catalog.applyEach before).Succeeds ∧
      ((catalog.applyEach before).model.applyLine (trim failure.line)).error =
        some failure.cause

theorem failsFirst_of_refused
    {line : String} {cause : ModelError}
    (refused : (catalog.applyLine (trim line)).error = some cause)
    (number : Nat) (rest : List String) (failure : LineFailure) :
    catalog.FailsFirst number (line :: rest) failure ↔ failure = ⟨number, line, cause⟩ := by
  constructor
  · rintro ⟨before, after, equal, numbered, went, stopped⟩
    cases before with
    | nil =>
        rcases List.cons.inj equal with ⟨rfl, rfl⟩
        have causes : some cause = some failure.cause := refused.symm.trans stopped
        rw [Option.some.inj causes, ← Nat.add_zero number, ← List.length_nil (α := String),
          ← numbered]
    | cons first before =>
        rcases List.cons.inj equal with ⟨rfl, rfl⟩
        rw [applyEach_cons, Outcome.succeeds_andThen_iff, Outcome.Succeeds, refused] at went
        exact absurd went.1 (Option.some_ne_none cause)
  · rintro rfl
    exact ⟨[], rest, rfl, rfl, rfl, refused⟩

theorem failsFirst_of_accepted
    {line : String}
    (accepted : (catalog.applyLine (trim line)).Succeeds)
    (number : Nat) (rest : List String) (failure : LineFailure) :
    catalog.FailsFirst number (line :: rest) failure ↔
      (catalog.applyLine (trim line)).model.FailsFirst (number + 1) rest failure := by
  constructor
  · rintro ⟨before, after, equal, numbered, went, stopped⟩
    cases before with
    | nil =>
        rcases List.cons.inj equal with ⟨rfl, rfl⟩
        exact absurd (accepted.symm.trans stopped) (Option.some_ne_none _).symm
    | cons first before =>
        rcases List.cons.inj equal with ⟨rfl, rfl⟩
        rw [succeeds_applyEach_cons_iff accepted] at went
        rw [model_applyEach_cons accepted] at stopped
        refine ⟨before, after, rfl, ?_, went, stopped⟩
        rw [numbered, List.length_cons, Nat.add_assoc, Nat.add_comm 1]
  · rintro ⟨before, after, rfl, numbered, went, stopped⟩
    refine ⟨line :: before, after, rfl, ?_, ?_, ?_⟩
    · rw [numbered, List.length_cons, Nat.add_assoc, Nat.add_comm 1]
    · exact (succeeds_applyEach_cons_iff accepted before).mpr went
    · rw [model_applyEach_cons accepted, stopped]

/-- The failure of a reading is that of the first line that is refused. -/
theorem applyLines_failure_eq_some_iff {number : Nat} {failure : LineFailure} :
    (catalog.applyLines number lines).failure = some failure ↔
      catalog.FailsFirst number lines failure := by
  induction lines generalizing catalog number with
  | nil => simp [applyLines, FailsFirst]
  | cons line rest ih =>
      rw [applyLines]
      cases refused : (catalog.applyLine (trim line)).error with
      | some cause =>
          rw [failsFirst_of_refused refused, eq_comm]
          exact Option.some_inj
      | none => rw [failsFirst_of_accepted refused, ← ih]

/-! ## Whole readings -/

variable {content : String}

theorem failure_read (catalog : Catalog) (content : String) :
    (catalog.read content).failure =
      (catalog.applyLines 1 (contentLines content)).failure := by
  simp only [read]
  split <;> simp_all

/-- A text is accepted exactly when each of its lines is. -/
theorem failure_read_eq_none_iff :
    (catalog.read content).failure = none ↔
      (catalog.applyEach (contentLines content)).Succeeds := by
  rw [failure_read, applyLines_failure_eq_none_iff]

theorem failure_read_eq_some_iff {failure : LineFailure} :
    (catalog.read content).failure = some failure ↔
      catalog.FailsFirst 1 (contentLines content) failure := by
  rw [failure_read, applyLines_failure_eq_some_iff]

/-- A reading that goes through reports once how much was read. -/
theorem read_of_succeeds (went : (catalog.applyEach (contentLines content)).Succeeds) :
    catalog.read content =
      ⟨(catalog.applyEach (contentLines content)).model,
        (catalog.applyEach (contentLines content)).events ++
          [(catalog.applyEach (contentLines content)).model.readEvent
            (contentLines content).length],
        none⟩ := by
  have whole : (catalog.applyLines 1 (contentLines content)).failure = none :=
    applyLines_failure_eq_none_iff.mpr went
  simp only [read, whole]
  rw [applyLines_catalog, applyLines_events]

/-- A reading that fails leaves no models and reports the failure. -/
theorem read_of_fails
    {failure : LineFailure}
    (failed : (catalog.read content).failure = some failure) :
    catalog.read content =
      ⟨catalog.clear,
        (catalog.applyEach (contentLines content)).events ++ [.recordParseFailed failure],
        some failure⟩ := by
  rw [failure_read] at failed
  simp only [read, failed]
  rw [applyLines_events]

/-- No text changes how strict a catalog is. -/
theorem strict_read (catalog : Catalog) (content : String) :
    (catalog.read content).catalog.strict = catalog.strict := by
  cases failed : (catalog.read content).failure with
  | none =>
      rw [read_of_succeeds (failure_read_eq_none_iff.mp failed)]
      exact catalog.strict_applyEach _
  | some failure =>
      rw [read_of_fails failed]
      rfl

/-- What the lines announce, and at the end one report about the whole reading. -/
theorem exists_report_of_read (catalog : Catalog) (content : String) :
    ∃ report, report.IsReport ∧
      (catalog.read content).events =
        (catalog.applyEach (contentLines content)).events ++ [report] := by
  cases ended : (catalog.read content).failure with
  | none =>
      rw [read_of_succeeds (failure_read_eq_none_iff.mp ended)]
      exact ⟨.recordsParsed _ _ _, trivial, rfl⟩
  | some failure =>
      rw [read_of_fails ended]
      exact ⟨.recordParseFailed failure, trivial, rfl⟩

theorem filter_isReport_applyEach (catalog : Catalog) (lines : List String) :
    (catalog.applyEach lines).events.filter (·.IsReport) = [] := by
  apply List.filter_eq_nil_iff.mpr
  intro event member
  have overwrite := catalog.isOverwrite_of_mem_events_applyEach lines event member
  simpa using overwrite.not_isReport

theorem filter_isReport_read_of_fails
    {failure : LineFailure}
    (failed : (catalog.read content).failure = some failure) :
    (catalog.read content).events.filter (·.IsReport) = [.recordParseFailed failure] := by
  rw [read_of_fails failed, List.filter_append, filter_isReport_applyEach]
  rfl

end Catalog

end RegularModels
