import RegularModels.Terminal.Session

/-!
# Conversations

A session answers inputs one after the other as long as it goes on.  Of inputs in two
parts, the second is answered by the session that the first leaves behind, and it is
not read at all when the session ends within the first.  An exit command ends a
session that has gone on so far, and so does the end of the input.
-/

namespace RegularModels.Terminal

/-- A transcript behind what was printed and announced before. -/
def Transcript.behind (output : String) (events : List Event) (transcript : Transcript) :
    Transcript :=
  { transcript with
    output := output ++ transcript.output
    events := events ++ transcript.events }

/-- The input asks the session to end. -/
def Input.Exits : Input → Prop
  | .line text => Command.ofLine text = .exit
  | .interrupt => False

instance : DecidablePred Input.Exits
  | .line text => inferInstanceAs (Decidable (Command.ofLine text = .exit))
  | .interrupt => inferInstanceAs (Decidable False)

/-- The inputs that are answered: those before the first exit command. -/
def answered (inputs : List Input) : List Input :=
  inputs.takeWhile fun input => ¬input.Exits

namespace Session

/-- What the session says before it reads inputs; the empty path names no start file. -/
def opening (session : Session) : Option String → Reply
  | none => session.say ""
  | some path => if path = "" then session.say "" else session.load path

/-- The session behind the answers to some inputs. -/
def after (package : Dot.Package) (session : Session) (inputs : List Input) : Session :=
  inputs.foldl (fun reached input => (reached.answer package input).session) session

/-- The prompts and answers to some inputs. -/
def printed (package : Dot.Package) (session : Session) : List Input → String
  | [] => ""
  | input :: inputs =>
    prompt ++ (session.answer package input).output ++
      (session.answer package input).session.printed package inputs

/-- What the answers to some inputs announce. -/
def announced (package : Dot.Package) (session : Session) : List Input → List Event
  | [] => []
  | input :: inputs =>
    (session.answer package input).events ++
      (session.answer package input).session.announced package inputs

/-- The session goes on after each of some inputs. -/
def GoesOn (package : Dot.Package) (session : Session) : List Input → Prop
  | [] => True
  | input :: inputs =>
    (session.answer package input).next = .goOn ∧
      (session.answer package input).session.GoesOn package inputs

variable {package : Dot.Package} {session : Session}

theorem start_eq (session : Session) (file : Option String) (inputs : List Input) :
    session.start package file inputs =
      continueWith (session.opening file) banner fun next => next.converse package inputs := by
  unfold start opening
  split
  · rfl
  · rfl
  · rename_i path nonempty
    dsimp only
    rw [if_neg nonempty]

@[simp]
theorem after_nil (session : Session) : session.after package [] = session :=
  rfl

@[simp]
theorem after_cons (session : Session) (input : Input) (inputs : List Input) :
    session.after package (input :: inputs) =
      (session.answer package input).session.after package inputs :=
  rfl

theorem continueWith_of_goOn
    {reply : Reply}
    (goes : reply.next = .goOn)
    (opening : String) (rest : Session → Transcript) :
    continueWith reply opening rest =
      (rest reply.session).behind (opening ++ reply.output) reply.events := by
  rw [continueWith, goes]
  rfl

/-- What follows is not asked for when the session does not go on. -/
theorem continueWith_congr_of_stops
    {reply : Reply}
    (stops : reply.next ≠ .goOn)
    (opening : String) (rest other : Session → Transcript) :
    continueWith reply opening rest = continueWith reply opening other := by
  unfold continueWith
  split
  · rename_i goes
    exact absurd goes stops
  · rfl
  · rfl

/-- The session goes on when it does after each input that is answered in its turn. -/
theorem goesOn_iff {inputs : List Input} :
    session.GoesOn package inputs ↔
      ∀ before input later, inputs = before ++ input :: later →
        ((session.after package before).answer package input).next = .goOn := by
  induction inputs generalizing session with
  | nil => simp [GoesOn]
  | cons first rest ih =>
      rw [GoesOn, ih]
      constructor
      · rintro ⟨firstGoes, restGoes⟩ before input later equal
        cases before with
        | nil =>
            cases equal
            exact firstGoes
        | cons head before =>
            cases equal
            exact restGoes before input later rfl
      · intro goes
        exact ⟨goes [] first rest rfl, fun before input later equal =>
          goes (first :: before) input later (congrArg (first :: ·) equal)⟩

@[simp]
theorem session_report (session : Session) (failure : Failure) :
    (session.report failure).session = session := by
  unfold report
  split <;> rfl

/-- An answer about an automaton has the properties that it has when there is one and when not. -/
theorem withAutomaton_of
    (Holds : Reply → Prop)
    {name : String} {answer : Automaton → Reply}
    (found : ∀ automaton, Holds (answer automaton))
    (missing : ∀ output, Holds (session.say output)) :
    Holds (session.withAutomaton name answer) := by
  unfold withAutomaton
  split
  · exact found _
  · exact missing _

theorem withGrammar_of
    (Holds : Reply → Prop)
    {name : String} {answer : Grammar → Reply}
    (found : ∀ grammar, Holds (answer grammar))
    (missing : ∀ output, Holds (session.say output)) :
    Holds (session.withGrammar name answer) := by
  unfold withGrammar
  split
  · exact found _
  · exact missing _

/-! ## Inputs in two parts -/

theorem converse_append_of_goesOn
    {before : List Input}
    (goes : session.GoesOn package before)
    (later : List Input) :
    session.converse package (before ++ later) =
      ((session.after package before).converse package later).behind
        (session.printed package before) (session.announced package before) := by
  induction before generalizing session with
  | nil => simp [printed, announced, Transcript.behind]
  | cons input rest ih =>
      rw [List.cons_append, converse, continueWith_of_goOn goes.1, ih goes.2, after_cons]
      simp only [Transcript.behind, printed, announced, String.append_assoc, List.append_assoc]

theorem converse_append_of_not_goesOn
    {before : List Input}
    (stops : ¬session.GoesOn package before)
    (later other : List Input) :
    session.converse package (before ++ later) = session.converse package (before ++ other) := by
  induction before generalizing session with
  | nil => exact absurd trivial stops
  | cons input rest ih =>
      rw [List.cons_append, List.cons_append, converse, converse]
      by_cases goes : (session.answer package input).next = .goOn
      · have further : ¬(session.answer package input).session.GoesOn package rest :=
          fun restGoes => stops ⟨goes, restGoes⟩
        rw [continueWith_of_goOn goes, continueWith_of_goOn goes, ih further]
      · exact continueWith_congr_of_stops goes prompt _ _

/-! ## The end of a session -/

theorem answer_of_exits
    {input : Input}
    (exits : input.Exits) :
    session.answer package input = { session, output := "", next := .leave } := by
  cases input with
  | line text =>
      have exit : Command.ofLine text = .exit := exits
      rw [answer, exit]
      rfl
  | interrupt => exact exits.elim

/-- The inputs are the answered ones, behind which the input ends or asks for the end. -/
theorem eq_answered_append (inputs : List Input) :
    inputs = answered inputs ∨
      ∃ exit rest, inputs = answered inputs ++ exit :: rest ∧ exit.Exits := by
  induction inputs with
  | nil => exact .inl rfl
  | cons input rest ih =>
      rw [answered, List.takeWhile_cons]
      by_cases exits : input.Exits
      · refine .inr ⟨input, rest, ?_, exits⟩
        simp [exits]
      · rw [if_pos (by simpa using exits)]
        rcases ih with whole | ⟨exit, later, equal, exits⟩
        · exact .inl (congrArg (input :: ·) whole)
        · exact .inr ⟨exit, later, congrArg (input :: ·) equal, exits⟩

/-- A session that goes on says farewell at the first exit command or the end of the input. -/
theorem converse_of_goesOn
    {inputs : List Input}
    (goes : session.GoesOn package (answered inputs)) :
    session.converse package inputs =
      ⟨session.after package (answered inputs),
        session.printed package (answered inputs) ++ (prompt ++ farewell),
        session.announced package (answered inputs), none⟩ := by
  rcases eq_answered_append inputs with whole | ⟨exit, rest, equal, exits⟩
  · have appended := converse_append_of_goesOn goes []
    rw [List.append_nil, ← whole] at appended
    rw [appended, ← whole]
    simp [converse, Transcript.behind]
  · have appended := converse_append_of_goesOn goes (exit :: rest)
    rw [← equal] at appended
    rw [appended, converse, answer_of_exits exits]
    simp [continueWith, Transcript.behind]

/-! ## Whole sessions -/

/-- The session goes on until it asks for the input behind some inputs. -/
structure Reaches (package : Dot.Package) (session : Session) (file : Option String)
    (before : List Input) : Prop where
  opens : (session.opening file).next = .goOn
  goesOn : (session.opening file).session.GoesOn package before

/-- The session as it stands behind the start file and some inputs. -/
def reached (package : Dot.Package) (session : Session) (file : Option String)
    (before : List Input) : Session :=
  (session.opening file).session.after package before

/-- What is printed before the prompt behind some inputs. -/
def printedUpTo (package : Dot.Package) (session : Session) (file : Option String)
    (before : List Input) : String :=
  banner ++ (session.opening file).output ++
    (session.opening file).session.printed package before

/-- What is announced before the prompt behind some inputs. -/
def announcedUpTo (package : Dot.Package) (session : Session) (file : Option String)
    (before : List Input) : List Event :=
  (session.opening file).events ++ (session.opening file).session.announced package before

variable {file : Option String} {before : List Input}

/-- What follows on inputs that are reached is told behind what they tell. -/
theorem start_of_reaches
    (reaches : session.Reaches package file before)
    (later : List Input) :
    session.start package file (before ++ later) =
      ((session.reached package file before).converse package later).behind
        (session.printedUpTo package file before)
        (session.announcedUpTo package file before) := by
  rw [start_eq, continueWith_of_goOn reaches.opens, converse_append_of_goesOn reaches.goesOn]
  simp only [Transcript.behind, reached, printedUpTo, announcedUpTo, String.append_assoc,
    List.append_assoc]

/-- Inputs that are not reached make no difference. -/
theorem start_of_not_reaches
    (unread : ¬session.Reaches package file before)
    (later other : List Input) :
    session.start package file (before ++ later) =
      session.start package file (before ++ other) := by
  rw [start_eq, start_eq]
  by_cases opens : (session.opening file).next = .goOn
  · have stops : ¬(session.opening file).session.GoesOn package before :=
      fun goesOn => unread ⟨opens, goesOn⟩
    rw [continueWith_of_goOn opens, continueWith_of_goOn opens,
      converse_append_of_not_goesOn stops later other]
  · exact continueWith_congr_of_stops opens banner _ _

end Session

end RegularModels.Terminal
