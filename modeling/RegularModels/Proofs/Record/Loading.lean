import Mathlib.Data.List.Induction
import RegularModels.Proofs.Entries
import RegularModels.Proofs.Record.Reading
import RegularModels.Workspace

/-!
# Readers that read and load

A reader of a workspace reads as the catalog of its models does: when a line is
refused it forgets all of them and blames that line.  Loading a file that cannot be
read changes nothing; otherwise what the reader held before makes no difference, and
it ends with the models that a new reader makes of the text.
-/

namespace RegularModels

open Catalog (contentLines)

/-! ## New places for values -/

/-- Put values behind those of an array, and note their places under their names. -/
def allot {β : Type} (values : Array β) (entries : List (String × β)) :
    Array β × Table String Nat :=
  entries.foldl (fun state entry => (state.1.push entry.2, state.2.insert entry.1 state.1.size))
    (values, ∅)

theorem allot_concat
    {β : Type} (values : Array β) (entries : List (String × β)) (entry : String × β) :
    allot values (entries ++ [entry]) =
      ((allot values entries).1.push entry.2,
        (allot values entries).2.insert entry.1 (allot values entries).1.size) := by
  simp [allot]

/-- The noted places exist, and the values stand there under their names. -/
structure Allotted
    {β : Type} [Inhabited β]
    (state : Array β × Table String Nat) (entries : List (String × β)) : Prop where
  places : ∀ entry ∈ state.2.entries, entry.2 < state.1.size
  values : state.2.entries.map (fun entry => (entry.1, state.1.getD entry.2 default)) = entries

/-- Every entry gets a place of its own, where its value stands. -/
theorem allotted_allot
    {β : Type} [Inhabited β] {entries : List (String × β)}
    (values : Array β)
    (nodup : (entries.map Prod.fst).Nodup) :
    Allotted (allot values entries) entries := by
  induction entries using List.reverseRecOn with
  | nil => exact ⟨fun _ member => absurd member List.not_mem_nil, rfl⟩
  | append_singleton entries entry ih =>
      rw [List.map_append, List.nodup_append] at nodup
      rcases nodup with ⟨earlierNodup, _, apart⟩
      have earlier := ih earlierNodup
      have new : entry.1 ∉ (allot values entries).2 := by
        intro member
        have keys : (allot values entries).2.keys = entries.map Prod.fst := by
          rw [Table.keys, ← congrArg (List.map Prod.fst) earlier.values, List.map_map]
          rfl
        have named : entry.1 ∈ entries.map Prod.fst := keys ▸ member
        exact apart _ named _ (by simp) rfl
      rw [allot_concat]
      constructor
      · intro placed member
        rw [Table.entries_insert_of_not_mem new] at member
        rw [Array.size_push]
        rcases List.mem_append.mp member with old | last
        · exact Nat.lt_succ_of_lt (earlier.places placed old)
        · rw [List.mem_singleton.mp last]
          exact Nat.lt_succ_self _
      · rw [Table.entries_insert_of_not_mem new, List.map_append]
        congr 1
        · refine Eq.trans (List.map_congr_left ?_) earlier.values
          intro placed old
          have inside := earlier.places placed old
          simp [Array.getD, inside, Nat.lt_succ_of_lt inside, Array.getElem_push_lt inside]
        · simp [Array.getD]

/-- Seen from the places, the values are there in the order of their names. -/
theorem Allotted.mapValues
    {β γ : Type} [Inhabited β]
    {state : Array β × Table String Nat} {entries : List (String × β)}
    (allotted : Allotted state entries)
    (view : β → γ) :
    (state.2.mapValues fun _ place => view (state.1.getD place default)).entries =
      entries.map fun entry => (entry.1, view entry.2) := by
  rw [← allotted.values, List.map_map]
  rfl

theorem Allotted.mem
    {β : Type} [Inhabited β]
    {state : Array β × Table String Nat} {entries : List (String × β)}
    (allotted : Allotted state entries)
    {entry : String × Nat}
    (member : entry ∈ state.2.entries) :
    (entry.1, state.1.getD entry.2 default) ∈ entries := by
  rw [← allotted.values]
  exact List.mem_map_of_mem (f := fun entry : String × Nat =>
    (entry.1, state.1.getD entry.2 default)) member

namespace Workspace

/-- The models that the reader at a place holds. -/
def held (workspace : Workspace) (place : Nat) : Catalog :=
  workspace.catalog (workspace.reader place)

theorem foldl_settleAutomaton
    (workspace : Workspace) (entries : List (String × Automaton)) :
    entries.foldl (settleAutomaton ∅) (workspace, ∅) =
      let allotted := allot workspace.machines
        (entries.map fun entry => (entry.1, { automaton := entry.2 }))
      ({ workspace with machines := allotted.1 }, allotted.2) := by
  induction entries using List.reverseRecOn with
  | nil => rfl
  | append_singleton entries entry ih =>
      rw [List.foldl_append, ih, List.map_append]
      simp only [List.map_cons, List.map_nil, allot_concat]
      rfl

theorem foldl_settleGrammar
    (workspace : Workspace) (entries : List (String × Grammar)) :
    entries.foldl (settleGrammar ∅) (workspace, ∅) =
      let allotted := allot workspace.grammars entries
      ({ workspace with grammars := allotted.1 }, allotted.2) := by
  induction entries using List.reverseRecOn with
  | nil => rfl
  | append_singleton entries entry ih =>
      rw [List.foldl_append, ih, allot_concat]
      rfl

/-! ## Settling models -/

section Settling

variable {workspace : Workspace} {place : Nat}

theorem readers_foldl_settleAutomaton
    (known : Table String Nat) (state : Workspace × Table String Nat)
    (entries : List (String × Automaton)) :
    (entries.foldl (settleAutomaton known) state).1.readers = state.1.readers := by
  induction entries generalizing state with
  | nil => rfl
  | cons entry rest ih =>
      rw [List.foldl_cons, ih, settleAutomaton]
      split <;> rfl

theorem readers_foldl_settleGrammar
    (known : Table String Nat) (state : Workspace × Table String Nat)
    (entries : List (String × Grammar)) :
    (entries.foldl (settleGrammar known) state).1.readers = state.1.readers := by
  induction entries generalizing state with
  | nil => rfl
  | cons entry rest ih =>
      rw [List.foldl_cons, ih, settleGrammar]
      split <;> rfl

theorem reader_setReader
    (known : place < workspace.readers.size) (reader : Reader) :
    (workspace.setReader place reader).reader place = reader := by
  simp [setReader, Workspace.reader, known]

theorem readers_settle (workspace : Workspace) (place : Nat) (catalog : Catalog) :
    ∃ reader, reader.strict = (workspace.reader place).strict ∧
      (workspace.settle place catalog).readers =
        workspace.readers.setIfInBounds place reader := by
  simp only [settle, setReader, readers_foldl_settleGrammar, readers_foldl_settleAutomaton]
  refine ⟨_, ?_, rfl⟩
  rfl

theorem held_clear (known : place < workspace.readers.size) :
    (workspace.clear place).held place = (workspace.held place).clear := by
  rw [held, clear, reader_setReader known]
  rfl

theorem known_settle
    (known : place < workspace.readers.size) (catalog : Catalog) :
    place < (workspace.settle place catalog).readers.size := by
  rcases readers_settle workspace place catalog with ⟨reader, _, readers⟩
  simpa [readers] using known

theorem held_clear_settle
    (known : place < workspace.readers.size) (catalog : Catalog) :
    ((workspace.settle place catalog).clear place).held place =
      (workspace.held place).clear := by
  rcases readers_settle workspace place catalog with ⟨reader, strict, readers⟩
  have same : (workspace.settle place catalog).reader place = reader := by
    simp [Workspace.reader, readers, known]
  rw [held_clear (known_settle known catalog)]
  simp [Catalog.clear, held, Workspace.catalog, same, strict]

/-- A new reader gets machines of its own that have not run yet. -/
theorem settle_of_new
    (known : place < workspace.readers.size)
    {catalog : Catalog}
    (new : workspace.reader place = { strict := catalog.strict }) :
    (workspace.settle place catalog).held place = catalog ∧
      ∀ entry ∈ ((workspace.settle place catalog).reader place).automata.entries,
        ((workspace.settle place catalog).machine entry.2).run = {} := by
  let machines : List (String × Machine) :=
    catalog.automata.entries.map fun entry => (entry.1, { automaton := entry.2 })
  have automata : Allotted (allot workspace.machines machines) machines := by
    apply allotted_allot
    rw [List.map_map]
    exact catalog.automata.nodup
  have grammars := allotted_allot workspace.grammars catalog.grammars.nodup
  have settled : workspace.settle place catalog =
      { workspace with
          machines := (allot workspace.machines machines).1
          grammars := (allot workspace.grammars catalog.grammars.entries).1
          readers := workspace.readers.setIfInBounds place
            { strict := catalog.strict
              automata := (allot workspace.machines machines).2
              grammars := (allot workspace.grammars catalog.grammars.entries).2 } } := by
    simp only [settle, new, foldl_settleAutomaton, foldl_settleGrammar]
    rfl
  rw [settled, held, Workspace.reader, Array.getD_eq_getD_getElem?,
    Array.getElem?_setIfInBounds_self_of_lt known, Option.getD_some]
  constructor
  · rw [Workspace.catalog]
    apply congrArg₂ (Catalog.mk catalog.strict) <;> apply Table.ext_entries
    · exact (automata.mapValues (·.automaton)).trans (by simp [machines, Function.comp_def])
    · exact (grammars.mapValues id).trans (by simp)
  · intro entry member
    rcases List.mem_map.mp (automata.mem member) with ⟨source, _, equal⟩
    rw [Prod.mk.injEq] at equal
    rw [machine, ← equal.2]

end Settling

/-! ## Reading and loading -/

variable {workspace : Workspace} {place : Nat} {content : String}

/-- A reading that fails leaves what was changed, and a reader that holds nothing. -/
theorem workspace_read_of_fails
    {failure : LineFailure}
    (failed : ((workspace.held place).read content).failure = some failure) :
    (workspace.read place content).workspace =
      (workspace.settle place
        ((workspace.held place).applyEach (contentLines content)).model).clear place := by
  rw [held] at failed ⊢
  simp [read, failed, Catalog.applyLines_catalog]

/-- A reading that goes through leaves the models that it led to. -/
theorem workspace_read_of_succeeds
    (went : ((workspace.held place).applyEach (contentLines content)).Succeeds) :
    (workspace.read place content).workspace =
      workspace.settle place
        ((workspace.held place).applyEach (contentLines content)).model := by
  have ended := Catalog.failure_read_eq_none_iff.mpr went
  rw [held] at ended ⊢
  simp [read, ended, Catalog.applyLines_catalog]

/-- A reader without models reads as a new catalog does. -/
theorem read_of_new
    (known : place < workspace.readers.size)
    {strict : Bool}
    (new : workspace.reader place = { strict }) :
    (workspace.read place content).workspace.held place =
        (({ strict } : Catalog).read content).catalog ∧
      ∀ entry ∈ ((workspace.read place content).workspace.reader place).automata.entries,
        ((workspace.read place content).workspace.machine entry.2).run = {} := by
  have before : workspace.held place = { strict } := by
    rw [held, new]
    rfl
  rw [← before]
  cases ended : ((workspace.held place).read content).failure with
  | some failure =>
      rw [workspace_read_of_fails ended, Catalog.read_of_fails ended]
      refine ⟨held_clear_settle known _, ?_⟩
      rw [clear, reader_setReader (known_settle known _)]
      exact fun _ member => absurd member List.not_mem_nil
  | none =>
      have went := Catalog.failure_read_eq_none_iff.mp ended
      rw [workspace_read_of_succeeds went, Catalog.read_of_succeeds went]
      apply settle_of_new known
      rw [Catalog.strict_applyEach, before, new]

/-- A file that is read leads to what a fresh reader makes of it. -/
theorem load_of_read
    (known : place < workspace.readers.size)
    {path : String}
    (text : workspace.files.readText path = .ok content) :
    let fresh := ({ strict := (workspace.held place).strict } : Catalog).read content
    let loaded := workspace.load place path
    loaded.failure = fresh.failure.map .line ∧
      loaded.events = fresh.events ∧
      loaded.workspace.held place = fresh.catalog ∧
      ∀ entry ∈ (loaded.workspace.reader place).automata.entries,
        (loaded.workspace.machine entry.2).run = {} := by
  have loaded : workspace.load place path = (workspace.clear place).read place content := by
    simp only [load, text]
  have stillKnown : place < (workspace.clear place).readers.size := by
    simpa [clear, setReader] using known
  have new : (workspace.clear place).reader place =
      { strict := (workspace.held place).strict } :=
    reader_setReader known _
  have before : (workspace.clear place).held place =
      { strict := (workspace.held place).strict } :=
    held_clear known
  simp only [loaded]
  refine ⟨?_, ?_, read_of_new stillKnown new⟩
  · rw [← before]
    rfl
  · rw [← before]
    rfl

/--
A reader that reads a description either accepts all of its lines, or it fails with the
first line that is refused where the lines before it have led: then it holds nothing
any more, and the failure is announced once.  A reader that loads a file changes nothing
when the file cannot be read, and otherwise does what a new reader does with the text.
-/
theorem read_and_load
    {workspace : Workspace} {place : Nat}
    (known : place < workspace.readers.size) :
    (∀ content,
      let outcome := workspace.read place content
      let before := workspace.held place
      (outcome.failure = none ∧ (before.applyEach (contentLines content)).Succeeds) ∨
        ∃ failure,
          outcome.failure = some (.line failure) ∧
            before.FailsFirst 1 (contentLines content) failure ∧
            outcome.workspace.held place = before.clear ∧
            outcome.events.filter (·.IsReport) = [.recordParseFailed failure]) ∧
      (∀ path error, workspace.files.readText path = .error error →
        workspace.load place path = { workspace, failure := some (.file error) }) ∧
      ∀ path content, workspace.files.readText path = .ok content →
        let fresh := ({ strict := (workspace.held place).strict } : Catalog).read content
        let loaded := workspace.load place path
        loaded.failure = fresh.failure.map .line ∧
          loaded.events = fresh.events ∧
          loaded.workspace.held place = fresh.catalog ∧
          ∀ entry ∈ (loaded.workspace.reader place).automata.entries,
            (loaded.workspace.machine entry.2).run = {} := by
  refine ⟨?_, ?_, fun path content text => load_of_read known text⟩
  · intro content
    cases ended : ((workspace.held place).read content).failure with
    | none =>
        left
        refine ⟨?_, Catalog.failure_read_eq_none_iff.mp ended⟩
        exact congrArg (Option.map Failure.line) ended
    | some failure =>
        right
        refine ⟨failure, congrArg (Option.map Failure.line) ended,
          Catalog.failure_read_eq_some_iff.mp ended, ?_,
          Catalog.filter_isReport_read_of_fails ended⟩
        rw [workspace_read_of_fails ended, held_clear_settle known]
  · intro path error failed
    simp only [load, failed]

/-- A workspace with a reader that holds one automaton. -/
def withReader : Workspace where
  machines := #[{ automaton := { name := "kept" } }]
  readers := #[{ strict := false, automata := Table.insert ∅ "kept" 0 }]

/-- The blank line does not count, and the automaton from before is forgotten too. -/
theorem read_and_load_withReader :
    0 < withReader.readers.size ∧
      (withReader.read 0 "1:new:q0\n\t\n 3:new:q1 ").failure =
        some (.line ⟨2, " 3:new:q1 ", .unknownInitialState "q1"⟩) ∧
      (withReader.read 0 "1:new:q0\n\t\n 3:new:q1 ").workspace.held 0 = {} := by
  have known : 0 < withReader.readers.size := by decide
  have failed : (withReader.read 0 "1:new:q0\n\t\n 3:new:q1 ").failure =
      some (.line ⟨2, " 3:new:q1 ", .unknownInitialState "q1"⟩) := by
    decide +kernel
  rcases (read_and_load known).1 "1:new:q0\n\t\n 3:new:q1 " with
    ⟨accepted, _⟩ | ⟨_, _, _, emptied, _⟩
  · exact absurd (accepted.symm.trans failed) (Option.some_ne_none _).symm
  · exact ⟨known, failed, emptied⟩

end Workspace

end RegularModels
