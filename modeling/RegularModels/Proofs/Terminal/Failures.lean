import Mathlib.Data.List.TakeWhile
import RegularModels.Proofs.Terminal.Looking

/-!
# Failing commands

A command that fails prints its error and the session goes on, unless the failure is one
that the terminal does not report: the name of a file holds the null character, its
contents are no text, or rendering fails in a way that neither says that the program is
missing nor comes from the operating system.  Such a failure escapes.  A session survives
exactly when no failure escapes from the start file and the commands that it answers.
-/

namespace RegularModels.Terminal

/-! ## Failures -/

namespace Session

/-- Why a file is not loaded, or not as a whole. -/
def loadFailure? (session : Session) (path : String) : Option Failure :=
  match session.files.readText path with
  | .error error => some (.file error)
  | .ok content => (session.catalog.reload content).failure.map .line

/-- Why a drawing is not rendered, if it is not. -/
def graphFailure? (package : Dot.Package) (session : Session) (name : String)
    (automaton : Automaton) (word : Option String) : Option Failure :=
  match (package.render session.files name (session.draw name automaton word).diagram).result with
  | .error error => some (.rendering error)
  | .ok _ => none

/-- Why a command fails, if it does. -/
def failure? (package : Dot.Package) (session : Session) : Command → Option Failure
  | .perform .load path _ => session.loadFailure? path
  | .perform .graph name word =>
    (session.catalog.automata.get? name).bind fun automaton =>
      session.graphFailure? package name automaton word
  | .perform .toGrammar name result =>
    (session.catalog.automata.get? name).bind fun automaton =>
      (automaton.toGrammar (some (result.getD (name ++ "_rg")))).error.map .model
  | .perform .toAutomaton name result =>
    (session.catalog.grammars.get? name).bind fun grammar =>
      (grammar.toAutomaton (some (result.getD (name ++ "_dfa")))).error.map .model
  | _ => none

/-- Why an input fails, if it does. -/
def inputFailure? (package : Dot.Package) (session : Session) : Input → Option Failure
  | .line text => session.failure? package (Command.ofLine text)
  | .interrupt => none

/-- Why the start file is not loaded, if one is named and it is not. -/
def openingFailure? (session : Session) : Option String → Option Failure
  | none => none
  | some path => if path = "" then none else session.loadFailure? path

end Session

/-! ## Replies to what fails -/

/--
The reply prints the error of what failed and goes on; if the failure is not one to
report, nothing is printed and the session breaks off.
-/
structure Reply.Reports (reply : Reply) (failure? : Option Failure) : Prop where
  next : reply.next =
    match failure? with
    | none => .goOn
    | some failure => if failure.isReported then .goOn else .breakOff failure
  output : ∀ failure, failure? = some failure →
    reply.output = if failure.isReported then errorLine failure.message else ""

namespace Reply.Reports

variable {reply : Reply} {failure? : Option Failure} {failure : Failure}

/-- A command that fails as the terminal reports it prints the error, and the session goes on. -/
theorem printed
    (reports : reply.Reports failure?)
    (failed : failure? = some failure)
    (reported : failure.isReported = true) :
    reply.output = errorLine failure.message ∧ reply.next = .goOn := by
  constructor
  · rw [reports.output failure failed, if_pos reported]
  · rw [reports.next, failed]
    exact if_pos reported

/-- A failure that is not reported prints nothing and breaks the session off. -/
theorem breaks
    (reports : reply.Reports failure?)
    (failed : failure? = some failure)
    (escapes : failure.isReported = false) :
    reply.output = "" ∧ reply.next = .breakOff failure := by
  constructor
  · rw [reports.output failure failed]
    exact if_neg (by simp [escapes])
  · rw [reports.next, failed]
    exact if_neg (by simp [escapes])

/-- The session goes on behind the reply exactly when a failure, if there is one, is reported. -/
theorem goesOn_iff (reports : reply.Reports failure?) :
    reply.next = .goOn ↔ ∀ failure, failure? = some failure → failure.isReported = true := by
  rw [reports.next]
  cases failure? with
  | none => simp
  | some failure => cases reported : failure.isReported <;> simp [reported]

end Reply.Reports

namespace Session

variable {package : Dot.Package} {session : Session}

/-- A reply that goes on and has nothing to report. -/
theorem reports_none {reply : Reply} (goes : reply.next = .goOn) : reply.Reports none :=
  ⟨goes, fun _ failed => nomatch failed⟩

theorem reports_of_goOn
    {reply : Reply} {failure : Failure}
    (goes : reply.next = .goOn)
    (reported : failure.isReported = true)
    (printed : reply.output = errorLine failure.message) :
    reply.Reports (some failure) := by
  constructor
  · rw [goes]
    exact (if_pos reported).symm
  · rintro other same
    cases same
    rw [if_pos reported]
    exact printed

theorem reports_report (session : Session) (failure : Failure) :
    (session.report failure).Reports (some failure) := by
  unfold report
  cases reported : failure.isReported with
  | true => exact reports_of_goOn rfl reported rfl
  | false =>
      constructor
      · simp [reported]
      · rintro other same
        cases same
        simp [reported]

/-- Loading reports why the file is not loaded. -/
theorem reports_load (session : Session) (path : String) :
    (session.load path).Reports (session.loadFailure? path) := by
  unfold load loadFailure?
  cases session.files.readText path with
  | error error => exact reports_report session (.file error)
  | ok content =>
      dsimp only
      cases (session.catalog.reload content).failure with
      | none => exact reports_none rfl
      | some failure => exact reports_of_goOn rfl rfl rfl

/-- Rendering reports why there is no image; with an image the session goes on. -/
theorem reports_graph
    (session : Session) (name : String) (automaton : Automaton) (word : Option String) :
    (session.graph package name automaton word).Reports
      (session.graphFailure? package name automaton word) := by
  have files := (session.agrees_draw name automaton word).files
  unfold graph graphFailure?
  rw [files]
  dsimp only
  generalize session.draw name automaton word = drawn
  generalize package.render drawn.session.files name drawn.diagram = rendering
  cases rendering.result with
  | ok path => exact reports_none rfl
  | error error =>
      have reports := reports_report
        { drawn.session with files := rendering.files } (.rendering error)
      exact ⟨reports.next, reports.output⟩

theorem reports_toGrammar (session : Session) (automaton : Automaton) (result : String) :
    (session.toGrammar automaton result).Reports
      ((automaton.toGrammar (some result)).error.map .model) := by
  unfold toGrammar
  dsimp only
  cases (automaton.toGrammar (some result)).error with
  | none => exact reports_none rfl
  | some error => exact reports_of_goOn rfl rfl rfl

theorem reports_toAutomaton (session : Session) (grammar : Grammar) (result : String) :
    (session.toAutomaton grammar result).Reports
      ((grammar.toAutomaton (some result)).error.map .model) := by
  unfold toAutomaton
  dsimp only
  cases (grammar.toAutomaton (some result)).error with
  | none => exact reports_none rfl
  | some error => exact reports_of_goOn rfl rfl rfl

/-- An action on an automaton fails as it does on the automaton of the name, if there is one. -/
theorem reports_withAutomaton
    (session : Session)
    (name : String)
    {answer : Automaton → Reply} {failure? : Automaton → Option Failure}
    (reports : ∀ automaton, (answer automaton).Reports (failure? automaton)) :
    (session.withAutomaton name answer).Reports
      ((session.catalog.automata.get? name).bind failure?) := by
  unfold withAutomaton
  cases session.catalog.automata.get? name with
  | none => exact reports_none rfl
  | some automaton => exact reports automaton

theorem reports_withGrammar
    (session : Session)
    (name : String)
    {answer : Grammar → Reply} {failure? : Grammar → Option Failure}
    (reports : ∀ grammar, (answer grammar).Reports (failure? grammar)) :
    (session.withGrammar name answer).Reports
      ((session.catalog.grammars.get? name).bind failure?) := by
  unfold withGrammar
  cases session.catalog.grammars.get? name with
  | none => exact reports_none rfl
  | some grammar => exact reports grammar

theorem reports_delete (session : Session) (name : String) :
    (session.delete name).Reports none := by
  unfold delete
  dsimp only
  split <;> exact reports_none rfl

theorem reports_perform
    (session : Session) (action : Action) (name : String) (extra : Option String) :
    (session.perform package action name extra).Reports
      (session.failure? package (.perform action name extra)) := by
  cases action with
  | load => exact reports_load session name
  | showAutomaton | showGrammar | test | validate | dot =>
      exact reports_none (unchanged_perform session (by exact trivial) name extra).next
  | graph => exact session.reports_withAutomaton name fun automaton => reports_graph _ _ _ _
  | toGrammar => exact session.reports_withAutomaton name fun automaton => reports_toGrammar _ _ _
  | toAutomaton => exact session.reports_withGrammar name fun grammar => reports_toAutomaton _ _ _
  | delete => exact reports_delete session name

/-- Every command but the exit reports its failure. -/
theorem reports_respond
    {command : Command}
    (stays : command ≠ .exit) :
    (session.respond package command).Reports (session.failure? package command) := by
  cases command with
  | blank | help | list | incomplete | unknown => exact reports_none rfl
  | exit => exact absurd rfl stays
  | clear => exact reports_none rfl
  | perform action name extra => exact reports_perform session action name extra

/-- Every input but the exit reports its failure. -/
theorem reports_answer
    (package : Dot.Package) (session : Session)
    {input : Input}
    (stays : ¬input.Exits) :
    (session.answer package input).Reports (session.inputFailure? package input) := by
  cases input with
  | line text => exact reports_respond stays
  | interrupt => exact reports_none rfl

theorem reports_opening (session : Session) (file : Option String) :
    (session.opening file).Reports (session.openingFailure? file) := by
  cases file with
  | none => exact reports_none rfl
  | some path =>
      unfold opening openingFailure?
      dsimp only
      split
      · exact reports_none rfl
      · exact reports_load _ _

/-! ## Sessions that survive -/

theorem not_exits_of_answered
    {inputs before later : List Input} {input : Input}
    (equal : answered inputs = before ++ input :: later) :
    ¬input.Exits := by
  have member : input ∈ answered inputs := by
    simp [equal]
  simpa using List.mem_takeWhile_imp member

/-- A session is not broken off when neither this reply breaks it off nor what follows. -/
theorem broken_continueWith_iff
    {reply : Reply} {failure? : Option Failure}
    (reports : reply.Reports failure?)
    (opening : String) (rest : Session → Transcript) :
    (continueWith reply opening rest).broken = none ↔
      reply.next = .goOn ∧ (rest reply.session).broken = none := by
  cases goes : reply.next with
  | goOn =>
      rw [continueWith_of_goOn goes]
      simp [Transcript.behind]
  | breakOff failure => simp [continueWith, goes]
  | leave =>
      have next := reports.next
      rw [goes] at next
      split at next
      · cases next
      · split at next <;> cases next

/-- A session is not broken off when it goes on after every input before the end. -/
theorem broken_converse_iff {inputs : List Input} :
    (session.converse package inputs).broken = none ↔
      session.GoesOn package (answered inputs) := by
  induction inputs generalizing session with
  | nil => exact ⟨fun _ => trivial, fun _ => rfl⟩
  | cons input rest ih =>
      rw [answered, List.takeWhile_cons, converse]
      by_cases exits : input.Exits
      · rw [if_neg (by simpa using exits), answer_of_exits exits]
        exact ⟨fun _ => trivial, fun _ => rfl⟩
      · have reports := reports_answer package session exits
        rw [if_pos (by simpa using exits), broken_continueWith_iff reports, ih]
        rfl

/-- A session is not broken off when it is reached up to its end. -/
theorem broken_start_iff {file : Option String} {inputs : List Input} :
    (session.start package file inputs).broken = none ↔
      session.Reaches package file (answered inputs) := by
  rw [start_eq, broken_continueWith_iff (session.reports_opening file), broken_converse_iff]
  exact ⟨fun ⟨opens, goes⟩ => ⟨opens, goes⟩, fun reaches => ⟨reaches.opens, reaches.goesOn⟩⟩

/-- Every input that is answered reports its failure, wherever the session then stands. -/
theorem reports_reached
    (package : Dot.Package) (session : Session) (file : Option String)
    {inputs before later : List Input} {input : Input}
    (equal : answered inputs = before ++ input :: later) :
    ((session.reached package file before).answer package input).Reports
      ((session.reached package file before).inputFailure? package input) :=
  reports_answer package _ (not_exits_of_answered equal)

/-- A session survives up to its end when every failure up to there is reported. -/
theorem reaches_answered_iff {file : Option String} {inputs : List Input} :
    session.Reaches package file (answered inputs) ↔
      (∀ failure, session.openingFailure? file = some failure → failure.isReported = true) ∧
        ∀ before input later, answered inputs = before ++ input :: later →
          ∀ failure,
            (session.reached package file before).inputFailure? package input = some failure →
              failure.isReported = true := by
  rw [← (session.reports_opening file).goesOn_iff]
  constructor
  · rintro ⟨opens, goes⟩
    refine ⟨opens, ?_⟩
    intro before input later equal
    have stays := goesOn_iff.mp goes before input later equal
    exact (reports_reached package session file equal).goesOn_iff.mp stays
  · rintro ⟨opens, reported⟩
    refine ⟨opens, goesOn_iff.mpr ?_⟩
    intro before input later equal
    have answers := reported before input later equal
    exact (reports_reached package session file equal).goesOn_iff.mpr answers

/-- A session that survives says farewell behind the answers to all inputs before the end. -/
theorem output_start
    {file : Option String} {inputs : List Input}
    (reaches : session.Reaches package file (answered inputs)) :
    (session.start package file inputs).output =
      session.printedUpTo package file (answered inputs) ++ (prompt ++ farewell) := by
  rw [start_eq, continueWith_of_goOn reaches.opens, converse_of_goesOn reaches.goesOn]
  simp only [Transcript.behind, printedUpTo, String.append_assoc]

/-- A failure that is not reported is the last that happens, and no farewell is printed. -/
theorem start_of_escapes
    {file : Option String} {inputs before later : List Input} {input : Input}
    {failure : Failure}
    (equal : answered inputs = before ++ input :: later)
    (reaches : session.Reaches package file before)
    (failed : (session.reached package file before).inputFailure? package input = some failure)
    (escapes : failure.isReported = false) :
    (session.start package file inputs).broken = some failure ∧
      (session.start package file inputs).output =
        session.printedUpTo package file before ++ prompt := by
  have prefixed : answered inputs <+: inputs := List.takeWhile_prefix _
  rcases prefixed with ⟨rest, whole⟩
  rw [equal, List.append_assoc, List.cons_append] at whole
  have reports := reports_reached package session file equal
  rcases reports.breaks failed escapes with ⟨silent, breaks⟩
  rw [← whole, start_of_reaches reaches, converse, continueWith, breaks, silent]
  exact ⟨rfl, by simp [Transcript.behind]⟩

end Session

end RegularModels.Terminal
