import RegularModels.Dot.Text
import RegularModels.Proofs.Files.Texts
import RegularModels.Proofs.Terminal.Failures

/-!
# Sessions that survive

All that a session does to files is to have drawings rendered, so what rendering keeps of
the files holds throughout.  A session survives when this makes texts of the files that it
loads, and when errors of rendering are such as the terminal reports.  Where the program
that makes images is missing, this holds among files of text for all plain paths, if
drawings are saved behind few enough directories.
-/

namespace RegularModels.Terminal

/-! ## Packages to rely on -/

/--
What a session may rely on when it loads files under some paths and has drawings rendered
under others: rendering keeps a property of the files.
-/
structure Reliable (package : Dot.Package) (Kept : FileTree → Prop)
    (Loads Draws : String → Prop) : Prop where
  /-- A file that is loaded holds text, or the operating system reports why it is not read. -/
  reads : ∀ {files path error}, Kept files → Loads path →
    files.readText path = .error error → error.fault.isSystem = true
  /-- A drawing is rendered, or there is an error that the terminal reports. -/
  reports : ∀ {files path graph error}, Kept files → Draws path →
    (package.render files path graph).result = .error error → error.isReported = true
  /-- Rendering keeps the property of the files. -/
  keeps : ∀ {files path graph}, Kept files → Draws path →
    Kept (package.render files path graph).files

section WithoutProgram

variable {quoting : Dot.Quoting} {limit : Nat} {message : String}
  {files : FileTree} {path : String} {graph : Dot.Digraph}

/-- Where the program is missing, rendering does nothing but save a text. -/
theorem files_withoutProgram :
    ((Dot.Package.withoutProgram quoting limit message).render files path graph).files =
      (files.save limit path (graph.text quoting)).tree := by
  unfold Dot.Package.withoutProgram Dot.Package.calling
  dsimp only
  generalize files.save limit path (graph.text quoting) = attempt
  cases attempt.error <;> rfl

/-- Where the program is missing, that is told unless the text could not be saved. -/
theorem result_withoutProgram {error : Dot.RenderError}
    (failed : ((Dot.Package.withoutProgram quoting limit message).render files path graph).result =
      .error error) :
    error = .noProgram message ∨
      ∃ cause, error = .file cause ∧
        (files.save limit path (graph.text quoting)).error = some cause := by
  unfold Dot.Package.withoutProgram Dot.Package.calling at failed
  dsimp only at failed
  split at failed
  · rename_i cause stopped
    exact .inr ⟨cause, (Except.error.inj failed).symm, stopped⟩
  · exact .inl (Except.error.inj failed).symm

/-- Among texts, the package can be relied on for plain paths behind few directories. -/
theorem reliable_withoutProgram :
    Reliable (.withoutProgram quoting limit message) FileTree.AllText PlainPath
      (fun path => PlainPath path ∧ FileTree.Shallow limit path) where
  reads := fun texts plain unread => texts.isSystem_of_readText plain unread
  reports := by
    rintro files path graph error _ ⟨plain, shallow⟩ failed
    rcases result_withoutProgram failed with rfl | ⟨cause, rfl, stopped⟩
    · rfl
    · exact FileTree.isSystem_of_save plain shallow stopped
  keeps := by
    intro files path graph texts _
    rw [files_withoutProgram]
    exact texts.save limit path (graph.text quoting)

end WithoutProgram

/-- A path that is loaded is one of some, and one under which a drawing is rendered of others. -/
def Command.Within (Loads Draws : String → Prop) : Command → Prop
  | perform .load path _ => Loads path
  | perform .graph path _ => Draws path
  | _ => True

/-- The line keeps within the paths; an interrupt names none. -/
def Input.Within (Loads Draws : String → Prop) : Input → Prop
  | line text => (Command.ofLine text).Within Loads Draws
  | interrupt => True

namespace Session

variable {package : Dot.Package} {session : Session}

/-! ## Files behind a reply -/

theorem files_load (session : Session) (path : String) :
    (session.load path).session.files = session.files := by
  unfold load
  split
  · rw [session_report]
  · rfl

theorem files_opening (session : Session) (file : Option String) :
    (session.opening file).session.files = session.files := by
  cases file with
  | none => rfl
  | some path =>
      unfold opening
      dsimp only
      split
      · rfl
      · exact session.files_load path

/-- The files behind a drawing are those that rendering leaves. -/
theorem files_graph
    (session : Session) (name : String) (automaton : Automaton) (word : Option String) :
    (session.graph package name automaton word).session.files =
      (package.render session.files name (session.draw name automaton word).diagram).files := by
  rw [(session.agrees_draw name automaton word).files]
  unfold graph
  dsimp only
  split
  · rfl
  · rw [session_report]

/-- Having drawings rendered is all that a session does to files. -/
theorem files_perform
    (session : Session)
    {action : Action}
    (other : action ≠ .graph)
    (name : String) (extra : Option String) :
    (session.perform package action name extra).session.files = session.files := by
  cases action with
  | graph => exact absurd rfl other
  | load => exact session.files_load name
  | showAutomaton | showGrammar | test | validate | dot =>
      exact (unchanged_perform session (by exact trivial) name extra).session.files.symm
  | toGrammar =>
      refine withAutomaton_of (·.session.files = session.files) (fun automaton => ?_) fun _ => rfl
      unfold toGrammar
      dsimp only
      split <;> rfl
  | toAutomaton =>
      refine withGrammar_of (·.session.files = session.files) (fun grammar => ?_) fun _ => rfl
      unfold toAutomaton
      dsimp only
      split <;> rfl
  | delete =>
      change (session.delete name).session.files = session.files
      unfold delete
      dsimp only
      split <;> rfl

section Reliable

variable {Kept : FileTree → Prop} {Loads Draws : String → Prop}
  (reliable : Reliable package Kept Loads Draws)
include reliable

/-- Answers keep what rendering keeps. -/
theorem kept_answer
    (kept : Kept session.files)
    {input : Input}
    (within : input.Within Loads Draws) :
    Kept (session.answer package input).session.files := by
  cases input with
  | interrupt => exact kept
  | line text =>
      change Kept (session.respond package (Command.ofLine text)).session.files
      change (Command.ofLine text).Within Loads Draws at within
      generalize Command.ofLine text = command at within ⊢
      cases command with
      | blank | exit | help | list | clear | incomplete | unknown => exact kept
      | perform action name extra =>
          by_cases graphs : action = .graph
          · subst graphs
            refine withAutomaton_of (Kept ·.session.files) (fun automaton => ?_) fun _ => kept
            rw [files_graph]
            exact reliable.keeps kept within
          · change Kept (session.perform package action name extra).session.files
            rw [session.files_perform graphs]
            exact kept

/-! ## Failures that are reported -/

/-- A file that holds text is loaded, or there is a failure to report. -/
theorem isReported_of_loadFailure?
    (kept : Kept session.files)
    {path : String}
    (loads : Loads path)
    {failure : Failure}
    (failed : session.loadFailure? path = some failure) :
    failure.isReported = true := by
  unfold loadFailure? at failed
  split at failed
  · rename_i error unread
    cases failed
    exact reliable.reads kept loads unread
  · rcases Option.map_eq_some_iff.mp failed with ⟨refused, _, rfl⟩
    rfl

/-- An input within the paths fails only as the terminal reports it. -/
theorem isReported_of_inputFailure?
    (kept : Kept session.files)
    {input : Input}
    (within : input.Within Loads Draws)
    {failure : Failure}
    (failed : session.inputFailure? package input = some failure) :
    failure.isReported = true := by
  cases input with
  | interrupt => cases failed
  | line text =>
      change (Command.ofLine text).Within Loads Draws at within
      change session.failure? package (Command.ofLine text) = some failure at failed
      generalize Command.ofLine text = command at within failed
      cases command with
      | blank | exit | help | list | clear | incomplete | unknown => cases failed
      | perform action name extra =>
          cases action with
          | load => exact isReported_of_loadFailure? reliable kept within failed
          | graph =>
              rcases Option.bind_eq_some_iff.mp failed with ⟨automaton, _, unrendered⟩
              unfold graphFailure? at unrendered
              split at unrendered
              · rename_i error refused
                cases unrendered
                exact reliable.reports kept within refused
              · cases unrendered
          | toGrammar | toAutomaton =>
              rcases Option.bind_eq_some_iff.mp failed with ⟨_, _, unconverted⟩
              rcases Option.map_eq_some_iff.mp unconverted with ⟨_, _, rfl⟩
              rfl
          | showAutomaton | showGrammar | test | validate | dot | delete => cases failed

theorem isReported_of_openingFailure?
    (kept : Kept session.files)
    {file : Option String}
    (loads : ∀ path, file = some path → Loads path)
    {failure : Failure}
    (failed : session.openingFailure? file = some failure) :
    failure.isReported = true := by
  cases file with
  | none => cases failed
  | some path =>
      unfold openingFailure? at failed
      dsimp only at failed
      split at failed
      · cases failed
      · exact isReported_of_loadFailure? reliable kept (loads path rfl) failed

/-- Sessions keep what rendering keeps. -/
theorem kept_after
    (kept : Kept session.files)
    {inputs : List Input}
    (within : ∀ input ∈ inputs, input.Within Loads Draws) :
    Kept (session.after package inputs).files := by
  induction inputs generalizing session with
  | nil => exact kept
  | cons input rest ih =>
      rw [List.forall_mem_cons] at within
      exact ih (kept_answer reliable kept within.1) within.2

/-- Where the package can be relied on, a session survives all inputs that keep within it. -/
theorem reaches_of_reliable
    {file : Option String} {inputs : List Input}
    (kept : Kept session.files)
    (loads : ∀ path, file = some path → Loads path)
    (within : ∀ input ∈ answered inputs, input.Within Loads Draws) :
    session.Reaches package file (answered inputs) := by
  rw [reaches_answered_iff]
  refine ⟨fun failure failed => isReported_of_openingFailure? reliable kept loads failed, ?_⟩
  intro before input later equal failure failed
  have keptBefore : Kept (session.reached package file before).files := by
    have keptOpening : Kept (session.opening file).session.files := by
      rw [files_opening]
      exact kept
    apply kept_after reliable keptOpening
    intro other member
    exact within other (by simp [equal, member])
  have inputWithin : input.Within Loads Draws := within input (by simp [equal])
  exact isReported_of_inputFailure? reliable keptBefore inputWithin failed

end Reliable

/--
Whatever package draws graphs, a session is not broken off exactly when the terminal
reports every failure of the start file and of the inputs before the first exit command.
It then answers all these inputs and says farewell.  Every failure that is reported prints
its error, and the next input is read; one that is not is the last that happens.  All
failures are reported when the package can be relied on for the paths that are named.
-/
theorem start_survives
    (package : Dot.Package)
    (session : Session) (file : Option String) (inputs : List Input) :
    ((session.start package file inputs).broken = none ↔
        (∀ failure, session.openingFailure? file = some failure → failure.isReported = true) ∧
          ∀ before input later, answered inputs = before ++ input :: later →
            ∀ failure,
              (session.reached package file before).inputFailure? package input =
                  some failure →
                failure.isReported = true) ∧
      ((session.start package file inputs).broken = none →
        (session.start package file inputs).output =
          session.printedUpTo package file (answered inputs) ++ (prompt ++ farewell)) ∧
      (∀ failure, session.openingFailure? file = some failure → failure.isReported = true →
        (session.opening file).output = errorLine failure.message ∧
          (session.opening file).next = .goOn) ∧
      (∀ before input later, answered inputs = before ++ input :: later →
        ∀ failure,
          (session.reached package file before).inputFailure? package input = some failure →
          failure.isReported = true →
            ((session.reached package file before).answer package input).output =
                errorLine failure.message ∧
              ((session.reached package file before).answer package input).next = .goOn) ∧
      (∀ before input later, answered inputs = before ++ input :: later →
        session.Reaches package file before →
          ∀ failure,
            (session.reached package file before).inputFailure? package input =
                some failure →
            failure.isReported = false →
              (session.start package file inputs).broken = some failure ∧
                (session.start package file inputs).output =
                  session.printedUpTo package file before ++ prompt) ∧
      (∀ (Kept : FileTree → Prop) (Loads Draws : String → Prop),
        Reliable package Kept Loads Draws → Kept session.files →
          (∀ path, file = some path → Loads path) →
            (∀ input ∈ answered inputs, input.Within Loads Draws) →
              (session.start package file inputs).broken = none) := by
  refine ⟨broken_start_iff.trans reaches_answered_iff, ?_, ?_, ?_, ?_, ?_⟩
  · intro unbroken
    exact output_start (broken_start_iff.mp unbroken)
  · intro failure failed reported
    exact (session.reports_opening file).printed failed reported
  · intro before input later equal failure failed reported
    exact (reports_reached package session file equal).printed failed reported
  · intro before input later equal reaches failure failed escapes
    exact start_of_escapes equal reaches failed escapes
  · intro Kept Loads Draws reliable kept loads within
    exact broken_start_iff.mpr (reaches_of_reliable reliable kept loads within)

/-- A package that misses its program. -/
def missing : Dot.Package :=
  .withoutProgram .standard 987
    ("failed to execute PosixPath('dot'), make sure the Graphviz executables are on your " ++
      "systems' PATH")

/-- Inputs that have a drawing rendered and load a file, with one more behind the end. -/
def renderingAndLoading : List Input :=
  [.line "graph T", .line "load none.txt", .line "quit", .line "list"]

/-- A drawing that is not rendered and a file that is not there are reported, up to the end. -/
theorem start_survives_toggling :
    (toggling.start missing none renderingAndLoading).broken = none ∧
      (toggling.start missing none renderingAndLoading).output =
        banner ++ prompt ++ errorLine
            ("failed to execute PosixPath('dot'), make sure the Graphviz executables are on " ++
              "your systems' PATH") ++
          prompt ++ "Error: [Errno 2] No such file or directory: 'none.txt'\n" ++
            prompt ++ farewell ∧
      (toggling.start camera none renderingAndLoading).broken = none ∧
      (toggling.start camera none renderingAndLoading).output =
        banner ++ prompt ++ "Created: T.png\n" ++
          prompt ++ "Error: [Errno 2] No such file or directory: 'none.txt'\n" ++
            prompt ++ farewell := by
  have inputs : answered renderingAndLoading = [.line "graph T", .line "load none.txt"] := by
    decide +kernel
  rcases start_survives missing toggling none renderingAndLoading with
    ⟨_, missingOutput, _, _, _, survives⟩
  rcases start_survives camera toggling none renderingAndLoading with
    ⟨_, imagedOutput, _, _, _, _⟩
  have texts : toggling.files.AllText := .directory (by simp [toggling])
  have within : ∀ input ∈ answered renderingAndLoading, input.Within PlainPath
      (fun path => PlainPath path ∧ FileTree.Shallow 987 path) := by
    have drawn : Command.ofLine "graph T" = .perform .graph "T" none := by decide +kernel
    have loaded : Command.ofLine "load none.txt" = .perform .load "none.txt" none := by
      decide +kernel
    rw [inputs]
    intro input member
    rcases List.mem_pair.mp member with rfl | rfl
    · rw [Input.Within, drawn]
      exact ⟨by unfold PlainPath; decide, by unfold FileTree.Shallow; decide⟩
    · rw [Input.Within, loaded]
      exact (by unfold PlainPath; decide : PlainPath "none.txt")
  have unbroken : (toggling.start missing none renderingAndLoading).broken = none :=
    survives _ _ _ reliable_withoutProgram texts (fun _ named => nomatch named) within
  have imaged : (toggling.start camera none renderingAndLoading).broken = none := by
    decide +kernel
  refine ⟨unbroken, ?_, imaged, ?_⟩
  · rw [missingOutput unbroken, inputs]
    decide +kernel
  · rw [imagedOutput imaged, inputs]
    decide +kernel

/-- A session beside a file with a byte that begins no character. -/
def besideBytes : Session where
  catalog := { strict := false }
  files := { entries := [("bad.txt", .file ⟨#[0xff]⟩)] }

/-- Loading the file breaks the session off before it reads the exit command. -/
theorem start_breaks_off :
    answered [.line "load bad.txt", .line "exit"] = [.line "load bad.txt"] ∧
      (besideBytes.start camera none [.line "load bad.txt", .line "exit"]).broken =
        some (.file ⟨.notText, "bad.txt"⟩) ∧
      (besideBytes.start camera none [.line "load bad.txt", .line "exit"]).output =
        banner ++ prompt := by
  refine ⟨?_, ?_, ?_⟩
  · decide +kernel
  · decide +kernel
  · decide +kernel

end Session

end RegularModels.Terminal
