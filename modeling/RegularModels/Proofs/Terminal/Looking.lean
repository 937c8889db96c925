import RegularModels.Dot.Text
import RegularModels.Proofs.Terminal.Conversation

/-!
# Commands that only look

Sessions with the same models and files answer every command alike and stay alike,
whatever runs their automata stand in and whatever the package that draws graphs makes
of them.  Commands that only look change nothing but runs, so a session without one of
them goes on as the session with it.
-/

namespace RegularModels.Terminal

/-! ## Which inputs only look -/

/-- The action answers about models without changing them. -/
def Action.Looks : Action → Prop
  | showAutomaton | showGrammar | test | validate | dot => True
  | load | graph | toGrammar | toAutomaton | delete => False

/-- The command only answers, or asks for a missing argument or another command. -/
def Command.Looks : Command → Prop
  | blank | help | list | incomplete _ | unknown _ => True
  | exit | clear => False
  | perform action _ _ => action.Looks

/-- The input is an interrupt or a line that only looks. -/
def Input.Looks : Input → Prop
  | line text => (Command.ofLine text).Looks
  | interrupt => True

/-! ## Sessions that differ in their runs -/

/-- The sessions hold the same models and files. -/
structure Session.Agrees (left right : Session) : Prop where
  catalog : left.catalog = right.catalog
  files : left.files = right.files

/-- The replies say the same and leave sessions behind that agree. -/
structure Reply.Agrees (left right : Reply) : Prop where
  session : left.session.Agrees right.session
  output : left.output = right.output
  events : left.events = right.events
  next : left.next = right.next

/-- The drawings show and announce the same and leave sessions behind that agree. -/
structure Session.Drawn.Agrees (left right : Session.Drawn) : Prop where
  session : left.session.Agrees right.session
  diagram : left.diagram = right.diagram
  events : left.events = right.events

/-- The transcripts say the same, end alike, and leave sessions behind that agree. -/
structure Transcript.Agrees (left right : Transcript) : Prop where
  session : left.session.Agrees right.session
  output : left.output = right.output
  events : left.events = right.events
  broken : left.broken = right.broken

theorem Transcript.Agrees.behind
    {left right : Transcript}
    (agrees : left.Agrees right)
    (output : String) (events : List Event) :
    (left.behind output events).Agrees (right.behind output events) :=
  ⟨agrees.session, congrArg (output ++ ·) agrees.output, congrArg (events ++ ·) agrees.events,
    agrees.broken⟩

namespace Session

variable {package : Dot.Package} {left right session : Session}

theorem Agrees.refl (session : Session) : session.Agrees session :=
  ⟨rfl, rfl⟩

theorem Agrees.symm (agrees : left.Agrees right) : right.Agrees left :=
  ⟨agrees.catalog.symm, agrees.files.symm⟩

/-! ## Answers of sessions that agree -/

theorem Agrees.say (agrees : left.Agrees right) (output : String) :
    (left.say output).Agrees (right.say output) :=
  ⟨agrees, rfl, rfl, rfl⟩

theorem Agrees.report (agrees : left.Agrees right) (failure : Failure) :
    (left.report failure).Agrees (right.report failure) := by
  unfold Session.report
  split
  · exact agrees.say _
  · exact ⟨agrees, rfl, rfl, rfl⟩

/-- What is loaded depends on the files and on how strict the session is. -/
theorem Agrees.load (agrees : left.Agrees right) (path : String) :
    (left.load path).Agrees (right.load path) := by
  unfold Session.load
  rw [agrees.files, agrees.catalog]
  split
  · exact agrees.report _
  · exact ⟨⟨rfl, rfl⟩, rfl, rfl, rfl⟩

theorem Agrees.withAutomaton
    (agrees : left.Agrees right)
    (name : String)
    {leftAnswer rightAnswer : Automaton → Reply}
    (answers : ∀ automaton, (leftAnswer automaton).Agrees (rightAnswer automaton)) :
    (left.withAutomaton name leftAnswer).Agrees (right.withAutomaton name rightAnswer) := by
  unfold Session.withAutomaton
  rw [agrees.catalog]
  split
  · exact answers _
  · exact agrees.say _

theorem Agrees.withGrammar
    (agrees : left.Agrees right)
    (name : String)
    {leftAnswer rightAnswer : Grammar → Reply}
    (answers : ∀ grammar, (leftAnswer grammar).Agrees (rightAnswer grammar)) :
    (left.withGrammar name leftAnswer).Agrees (right.withGrammar name rightAnswer) := by
  unfold Session.withGrammar
  rw [agrees.catalog]
  split
  · exact answers _
  · exact agrees.say _

/-- Trying a word starts a new run, so what is found does not depend on the old one. -/
theorem Agrees.test
    (agrees : left.Agrees right) (name : String) (automaton : Automaton) (word : String) :
    (left.test name automaton word).Agrees (right.test name automaton word) :=
  ⟨⟨agrees.catalog, agrees.files⟩, rfl, rfl, rfl⟩

/-- The path that is drawn is that of a new run. -/
theorem Agrees.draw
    (agrees : left.Agrees right)
    (name : String) (automaton : Automaton) (word : Option String) :
    (left.draw name automaton word).Agrees (right.draw name automaton word) := by
  cases word with
  | none => exact ⟨agrees, rfl, rfl⟩
  | some word => exact ⟨⟨agrees.catalog, agrees.files⟩, rfl, rfl⟩

/-- The text of a drawing depends on the drawing only. -/
theorem Agrees.dot
    (agrees : left.Agrees right)
    (name : String) (automaton : Automaton) (word : Option String) :
    (left.dot package name automaton word).Agrees (right.dot package name automaton word) := by
  have drawn := agrees.draw name automaton word
  exact ⟨drawn.session, congrArg (line <| package.source ·) drawn.diagram, drawn.events, rfl⟩

theorem Agrees.validate (agrees : left.Agrees right) (name : String) :
    (left.validate name).Agrees (right.validate name) := by
  unfold Session.validate
  rw [agrees.catalog]
  split
  · exact agrees.say _
  · split <;> exact agrees.say _

/-- What comes of rendering depends on the drawing and the files only. -/
theorem Agrees.graph
    (agrees : left.Agrees right)
    (name : String) (automaton : Automaton) (word : Option String) :
    (left.graph package name automaton word).Agrees
      (right.graph package name automaton word) := by
  have drawn := agrees.draw name automaton word
  unfold Session.graph
  simp only [drawn.session.files, drawn.diagram, drawn.events]
  generalize package.render (right.draw name automaton word).session.files name
    (right.draw name automaton word).diagram = rendering
  have rendered : Session.Agrees
      { (left.draw name automaton word).session with files := rendering.files }
      { (right.draw name automaton word).session with files := rendering.files } :=
    ⟨drawn.session.catalog, rfl⟩
  split
  · exact ⟨rendered, rfl, rfl, rfl⟩
  · rename_i error _
    have reported := rendered.report (.rendering error)
    exact ⟨reported.session, reported.output, rfl, reported.next⟩

theorem Agrees.toGrammar
    (agrees : left.Agrees right) (automaton : Automaton) (result : String) :
    (left.toGrammar automaton result).Agrees (right.toGrammar automaton result) := by
  unfold Session.toGrammar
  simp only [agrees.catalog]
  split
  · exact ⟨agrees, rfl, rfl, rfl⟩
  · exact ⟨⟨rfl, agrees.files⟩, rfl, rfl, rfl⟩

theorem Agrees.toAutomaton
    (agrees : left.Agrees right) (grammar : Grammar) (result : String) :
    (left.toAutomaton grammar result).Agrees (right.toAutomaton grammar result) := by
  unfold Session.toAutomaton
  simp only [agrees.catalog]
  split
  · exact ⟨agrees, rfl, rfl, rfl⟩
  · exact ⟨⟨rfl, agrees.files⟩, rfl, rfl, rfl⟩

theorem Agrees.delete (agrees : left.Agrees right) (name : String) :
    (left.delete name).Agrees (right.delete name) := by
  unfold Session.delete
  simp only [agrees.catalog]
  split
  · exact ⟨⟨rfl, agrees.files⟩, rfl, rfl, rfl⟩
  · exact agrees.say _

/-- Sessions that agree carry out every action alike. -/
theorem Agrees.perform
    (agrees : left.Agrees right)
    (action : Action) (name : String) (extra : Option String) :
    (left.perform package action name extra).Agrees
      (right.perform package action name extra) := by
  cases action with
  | load => exact agrees.load name
  | showAutomaton => exact agrees.withAutomaton name fun automaton => agrees.say _
  | showGrammar => exact agrees.withGrammar name fun grammar => agrees.say _
  | test => exact agrees.withAutomaton name fun automaton => agrees.test name automaton _
  | validate => exact agrees.validate name
  | dot => exact agrees.withAutomaton name fun automaton => agrees.dot name automaton extra
  | graph => exact agrees.withAutomaton name fun automaton => agrees.graph name automaton extra
  | toGrammar => exact agrees.withAutomaton name fun automaton => agrees.toGrammar automaton _
  | toAutomaton => exact agrees.withGrammar name fun grammar => agrees.toAutomaton grammar _
  | delete => exact agrees.delete name

theorem Agrees.respond (agrees : left.Agrees right) (command : Command) :
    (left.respond package command).Agrees (right.respond package command) := by
  cases command with
  | blank | help | incomplete | unknown => exact agrees.say _
  | list =>
      unfold Session.respond
      rw [agrees.catalog]
      exact agrees.say _
  | exit => exact ⟨agrees, rfl, rfl, rfl⟩
  | clear => exact ⟨⟨congrArg Catalog.clear agrees.catalog, agrees.files⟩, rfl, rfl, rfl⟩
  | perform action name extra => exact agrees.perform action name extra

theorem Agrees.answer (agrees : left.Agrees right) (input : Input) :
    (left.answer package input).Agrees (right.answer package input) := by
  cases input with
  | line text => exact agrees.respond _
  | interrupt => exact agrees.say _

theorem continueWith_agrees
    {left right : Reply}
    (agrees : left.Agrees right)
    (opening : String)
    {rest : Session → Transcript}
    (further : (rest left.session).Agrees (rest right.session)) :
    (continueWith left opening rest).Agrees (continueWith right opening rest) := by
  cases goes : left.next with
  | goOn =>
      rw [continueWith_of_goOn goes, continueWith_of_goOn (agrees.next ▸ goes), agrees.output,
        agrees.events]
      exact further.behind _ _
  | leave | breakOff =>
      simp only [continueWith, ← agrees.next, goes, agrees.output, agrees.events]
      exact ⟨agrees.session, rfl, rfl, rfl⟩

/-- Sessions that agree tell the same of all inputs that follow. -/
theorem Agrees.converse (agrees : left.Agrees right) (inputs : List Input) :
    (left.converse package inputs).Agrees (right.converse package inputs) := by
  induction inputs generalizing left right with
  | nil => exact ⟨agrees, rfl, rfl, rfl⟩
  | cons input rest ih =>
      have answered : (left.answer package input).Agrees (right.answer package input) :=
        agrees.answer input
      exact continueWith_agrees answered prompt (ih answered.session)

/-! ## Inputs that only look -/

/-- A reply after which the session goes on with the same models and files. -/
structure Unchanged (session : Session) (reply : Reply) : Prop where
  session : session.Agrees reply.session
  next : reply.next = .goOn

theorem unchanged_say (session : Session) (output : String) :
    session.Unchanged (session.say output) :=
  ⟨.refl session, rfl⟩

/-- Drawing an automaton tries the word, and changes nothing else. -/
theorem agrees_draw
    (session : Session) (name : String) (automaton : Automaton) (word : Option String) :
    session.Agrees (session.draw name automaton word).session := by
  cases word <;> exact ⟨rfl, rfl⟩

theorem unchanged_validate (session : Session) (name : String) :
    session.Unchanged (session.validate name) := by
  unfold validate
  split
  · exact unchanged_say _ _
  · split <;> exact unchanged_say _ _

/-- An action that only looks changes neither models nor files. -/
theorem unchanged_perform
    (session : Session)
    {action : Action}
    (looks : action.Looks)
    (name : String) (extra : Option String) :
    session.Unchanged (session.perform package action name extra) := by
  cases action with
  | load | graph | toGrammar | toAutomaton | delete => exact looks.elim
  | showAutomaton => exact withAutomaton_of _ (fun _ => unchanged_say _ _) (unchanged_say session)
  | showGrammar => exact withGrammar_of _ (fun _ => unchanged_say _ _) (unchanged_say session)
  | test => exact withAutomaton_of _ (fun _ => ⟨⟨rfl, rfl⟩, rfl⟩) (unchanged_say session)
  | validate => exact unchanged_validate session name
  | dot => exact withAutomaton_of _ (fun _ => ⟨agrees_draw _ _ _ _, rfl⟩) (unchanged_say session)

theorem unchanged_respond
    (session : Session)
    {command : Command}
    (looks : command.Looks) :
    session.Unchanged (session.respond package command) := by
  cases command with
  | exit | clear => exact looks.elim
  | blank | help | list | incomplete | unknown => exact unchanged_say _ _
  | perform action name extra => exact unchanged_perform session looks name extra

/-- After an input that only looks, the session goes on with the same models and files. -/
theorem unchanged_answer
    (package : Dot.Package) (session : Session)
    {input : Input}
    (looks : input.Looks) :
    session.Unchanged (session.answer package input) := by
  cases input with
  | interrupt => exact unchanged_say _ _
  | line text => exact unchanged_respond session looks

/-- Behind an input that only looks, a session tells what it tells without it. -/
theorem converse_cons_of_looks
    (package : Dot.Package) (session : Session)
    {input : Input}
    (looks : input.Looks)
    (inputs : List Input) :
    (session.converse package (input :: inputs)).Agrees
      ((session.converse package inputs).behind
        (prompt ++ (session.answer package input).output)
        (session.answer package input).events) := by
  have unchanged := unchanged_answer package session looks
  rw [converse, continueWith_of_goOn unchanged.next]
  exact (unchanged.session.symm.converse inputs).behind _ _

/-! ## Leaving inputs out -/

/--
Whatever package draws graphs, leaving an input that only looks out of a session leaves
the models, the files and the way in which the session ends as they are.  What is printed
stays as it is, apart from the prompt and the answer of that input; a session that has
ended before prints neither.
-/
theorem start_append_looks
    (package : Dot.Package)
    (session : Session)
    (file : Option String)
    (before later : List Input)
    {input : Input}
    (looks : input.Looks) :
    (session.start package file (before ++ input :: later)).session.catalog =
        (session.start package file (before ++ later)).session.catalog ∧
      (session.start package file (before ++ input :: later)).session.files =
        (session.start package file (before ++ later)).session.files ∧
      (session.start package file (before ++ input :: later)).broken =
        (session.start package file (before ++ later)).broken ∧
      (¬session.Reaches package file before →
        (session.start package file (before ++ input :: later)).output =
          (session.start package file (before ++ later)).output) ∧
      (session.Reaches package file before →
        ∃ rest,
          (session.start package file (before ++ later)).output =
            session.printedUpTo package file before ++ rest ∧
          (session.start package file (before ++ input :: later)).output =
            session.printedUpTo package file before ++
              (prompt ++ ((session.reached package file before).answer package input).output) ++
                rest) := by
  by_cases reaches : session.Reaches package file before
  · have agrees := (converse_cons_of_looks package (session.reached package file before) looks
      later).behind (session.printedUpTo package file before)
        (session.announcedUpTo package file before)
    rw [start_of_reaches reaches, start_of_reaches reaches]
    refine ⟨agrees.session.catalog, agrees.session.files, agrees.broken,
      fun unread => absurd reaches unread, fun _ => ⟨_, rfl, ?_⟩⟩
    rw [agrees.output]
    simp only [Transcript.behind, String.append_assoc]
  · rw [start_of_not_reaches reaches (input :: later) later]
    exact ⟨rfl, rfl, rfl, fun _ => rfl, fun reached => absurd reached reaches⟩

/-- A session with one automaton, which reads one symbol. -/
def toggling : Session where
  catalog :=
    { strict := false
      automata := Table.insert ∅ "T"
        { name := "T"
          states := .ofList ["off", "on"]
          alphabet := .ofList ["a"]
          initial := some "off"
          finals := .ofList ["on"]
          transitions := (Table.insert ∅ ("off", "a") "on").insert ("on", "a") "off" } }
  files := {}

/-- A package that makes the same image of everything. -/
def camera : Dot.Package :=
  .imaging .standard 987 ⟨#[0x89]⟩

/--
Trying a word after the automaton has been rendered changes nothing but what is printed
about the word.
-/
theorem start_append_looks_toggling :
    (Input.line "test T aa").Looks ∧ toggling.Reaches camera none [.line "graph T a"] ∧
      (toggling.start camera none [.line "graph T a", .line "test T aa", .line "to_grammar T"]
          ).session.catalog =
        (toggling.start camera none [.line "graph T a", .line "to_grammar T"]).session.catalog ∧
      ∃ rest,
        (toggling.start camera none [.line "graph T a", .line "to_grammar T"]).output =
          banner ++ prompt ++ "Created: T.png\n" ++ rest ∧
        (toggling.start camera none [.line "graph T a", .line "test T aa", .line "to_grammar T"]
            ).output =
          banner ++ prompt ++ "Created: T.png\n" ++
            (prompt ++ "aa: REJECTED\n  Path: off -a-> on -a-> off\n") ++ rest := by
  have looks : (Input.line "test T aa").Looks := by
    have asked : Command.ofLine "test T aa" = .perform .test "T" (some "aa") := by
      decide +kernel
    change (Command.ofLine "test T aa").Looks
    rw [asked]
    trivial
  have reaches : toggling.Reaches camera none [.line "graph T a"] :=
    ⟨rfl, by decide +kernel, trivial⟩
  have before : toggling.printedUpTo camera none [.line "graph T a"] =
      banner ++ prompt ++ "Created: T.png\n" := by
    decide +kernel
  have printed :
      ((toggling.reached camera none [.line "graph T a"]).answer camera
        (.line "test T aa")).output = "aa: REJECTED\n  Path: off -a-> on -a-> off\n" := by
    decide +kernel
  rcases start_append_looks camera toggling none [.line "graph T a"] [.line "to_grammar T"]
    looks with ⟨catalog, _, _, _, outputs⟩
  have split := outputs reaches
  rw [before, printed] at split
  exact ⟨looks, reaches, catalog, split⟩

end Session

end RegularModels.Terminal
