import RegularModels.Proofs.Entries
import RegularModels.Proofs.Record.Independence
import RegularModels.Proofs.Record.Naming
import RegularModels.Proofs.Terminal.Looking

/-!
# What commands change

A conversion adds or replaces one model, a deletion takes out what has the name, and
loading and clearing concern all models; every other command leaves the models as they
are.  So does a command that prints an error, except that a file which is read but
refused leaves no models at all.  A model therefore stays as it is until an input names
it.
-/

namespace RegularModels

/-- The model that a change leads to, if the change goes through. -/
def Outcome.result? {σ : Type} (outcome : Outcome σ) : Option σ :=
  match outcome.error with
  | none => some outcome.model
  | some _ => none

namespace Terminal

open Text (IsOneLine)

/-! ## What is printed -/

/-- A line that is printed begins as the report of an error. -/
def Reply.PrintsError (reply : Reply) : Prop :=
  ∃ printed ∈ Text.splitAtChar '\n' reply.output, ("Error: " : String).toList <+: printed.toList

theorem printsError_of_errorLine
    {reply : Reply} {message : String}
    (output : reply.output = errorLine message) :
    reply.PrintsError := by
  have begins : IsOneLine "Error: " := by decide
  rw [Reply.PrintsError, output, errorLine, line, String.append_assoc]
  exact Text.exists_mem_splitAtChar begins _

/-- A single line that begins with another letter reports no error. -/
theorem not_printsError_of_line
    {reply : Reply} {text : String}
    (output : reply.output = line text)
    (oneLine : IsOneLine text)
    (other : text.toList.head? ≠ some 'E') :
    ¬reply.PrintsError := by
  rintro ⟨printed, member, begins⟩
  rw [output, line, Text.splitAtChar_lineFeed oneLine] at member
  rcases List.mem_pair.mp member with rfl | rfl
  · rcases begins with ⟨rest, whole⟩
    rw [← whole] at other
    exact other (by simp)
  · simp at begins

/-- What is told about a name without line breaks reports no error. -/
theorem not_printsError_of_name
    {reply : Reply} {start name : String}
    (output : reply.output = line (start ++ name))
    (startOneLine : IsOneLine start)
    (nameOneLine : IsOneLine name)
    (other : start.toList.head?.any (· ≠ 'E') = true) :
    ¬reply.PrintsError := by
  rcases (Option.any_eq_true _ _).mp other with ⟨first, begins, notE⟩
  apply not_printsError_of_line output (startOneLine.append nameOneLine)
  rw [String.toList_append, List.head?_append, begins, Option.some_or]
  rintro same
  cases same
  simp at notE

theorem isOneLine_countNames
    {β : Type} {table : Table String β} {kind : String}
    (kindOneLine : IsOneLine kind)
    (names : ∀ name ∈ table, IsOneLine name) :
    ∀ text ∈ countNames kind table, IsOneLine text := by
  intro text member
  unfold countNames at member
  dsimp only at member
  split at member
  · cases member
  · have listed : IsOneLine (", ".intercalate table.keys) :=
      Text.isOneLine_intercalate (by decide) names
    have counted := Text.isOneLine_toString table.size
    have space : IsOneLine " " := by decide
    have colon : IsOneLine ": " := by decide
    rw [List.mem_singleton.mp member]
    exact ((((counted.append space).append kindOneLine).append colon).append listed)

/-- The line about a load names models, whose names hold no line breaks. -/
theorem loadedLine_eq
    {catalog : Catalog}
    (names : catalog.NamesOneLine) :
    ∃ text, loadedLine catalog = line text ∧ IsOneLine text ∧ text.toList.head? ≠ some 'E' := by
  have automata : ∀ text ∈ countNames "automata" catalog.automata, IsOneLine text :=
    isOneLine_countNames (by decide) names.automata
  have grammars : ∀ text ∈ countNames "grammars" catalog.grammars, IsOneLine text :=
    isOneLine_countNames (by decide) names.grammars
  unfold loadedLine
  split
  · exact ⟨_, rfl, by decide, by decide⟩
  · rename_i counts _
    have counted : IsOneLine (" and ".intercalate
        (countNames "automata" catalog.automata ++ countNames "grammars" catalog.grammars)) :=
      Text.isOneLine_intercalate (by decide) (List.forall_mem_append.mpr ⟨automata, grammars⟩)
    have begins : IsOneLine "Loaded " := by decide
    exact ⟨_, rfl, begins.append counted, by simp⟩

/-! ## What commands name -/

/-- The arguments of the command hold no line breaks. -/
def Command.OneLine : Command → Prop
  | perform _ name extra => IsOneLine name ∧ ∀ given ∈ extra, IsOneLine given
  | _ => True

theorem Command.oneLine_ofLine (text : String) : (Command.ofLine text).OneLine := by
  have words : ∀ word ∈ Text.words text, IsOneLine word :=
    fun word member => Text.isOneLine_of_mem_words member
  unfold Command.ofLine
  split
  · trivial
  · rename_i word arguments cut
    rw [cut, List.forall_mem_cons] at words
    unfold Command.ofWords
    split
    · split
      · trivial
      · rename_i name rest
        rw [List.forall_mem_cons] at words
        refine ⟨words.2.1, ?_⟩
        intro given first
        exact words.2.2 given (List.mem_of_head? first)
    · split <;> trivial

/-- The command may change, remove or make the model. -/
def Command.Names (key : ModelKey) : Command → Prop
  | perform .load _ _ | clear => True
  | perform .toGrammar name result => key = .grammar (result.getD (name ++ "_rg"))
  | perform .toAutomaton name result => key = .automaton (result.getD (name ++ "_dfa"))
  | perform .delete name _ => key = .automaton name ∨ key = .grammar name
  | _ => False

/-- The input is a line whose command may change the model; an interrupt never does. -/
def Input.Names (key : ModelKey) : Input → Prop
  | line text => (Command.ofLine text).Names key
  | interrupt => False

namespace Session

/-- The grammar that converting the automaton of a name makes, if there is one and it succeeds. -/
def grammarMade? (session : Session) (name result : String) : Option Grammar :=
  (session.catalog.automata.get? name).bind fun automaton =>
    (automaton.toGrammar (some result)).result?

/-- The automaton that converting the grammar of a name makes, if there is one and it succeeds. -/
def automatonMade? (session : Session) (name result : String) : Option Automaton :=
  (session.catalog.grammars.get? name).bind fun grammar =>
    (grammar.toAutomaton (some result)).result?

/-- The reading of a description on its own, with automata as strict as in the session. -/
def freshReading (session : Session) (content : String) : Reading :=
  ({ strict := session.catalog.strict } : Catalog).read content

/-- The file that the command loads is read, but its contents are refused. -/
def Rejects (session : Session) : Command → Prop
  | .perform .load path _ => ∃ content, session.files.readText path = .ok content ∧
      (session.freshReading content).failure ≠ none
  | _ => False

/--
The models behind a command differ from those before it as the command says: a file that
is loaded takes the place of all models, a conversion that succeeds writes one model of
one family, a deletion takes out the name, clearing takes out everything, and nothing
else changes.
-/
def Effect (session : Session) (behind : Catalog) : Command → Prop
  | .perform .load path _ =>
      match session.files.readText path with
      | .error _ => behind = session.catalog
      | .ok content =>
          ((session.freshReading content).failure = none →
              behind = (session.freshReading content).catalog) ∧
            ((session.freshReading content).failure ≠ none →
              behind.automata = ∅ ∧ behind.grammars = ∅)
  | .perform .toGrammar name result =>
      let resultName := result.getD (name ++ "_rg")
      behind.automata = session.catalog.automata ∧
        match session.grammarMade? name resultName with
        | some grammar => session.catalog.grammars.Puts resultName grammar behind.grammars
        | none => behind.grammars = session.catalog.grammars
  | .perform .toAutomaton name result =>
      let resultName := result.getD (name ++ "_dfa")
      behind.grammars = session.catalog.grammars ∧
        match session.automatonMade? name resultName with
        | some automaton => session.catalog.automata.Puts resultName automaton behind.automata
        | none => behind.automata = session.catalog.automata
  | .perform .delete name _ =>
      session.catalog.automata.Drops name behind.automata ∧
        session.catalog.grammars.Drops name behind.grammars
  | .clear => behind.automata = ∅ ∧ behind.grammars = ∅
  | _ => behind = session.catalog

/-- The reply changes what the command names, and nothing if it prints an error. -/
structure Follows (session : Session) (command : Command) (reply : Reply) : Prop where
  effect : session.Effect reply.session.catalog command
  strict : reply.session.catalog.strict = session.catalog.strict
  failing : reply.PrintsError → ¬session.Rejects command → reply.session.catalog = session.catalog
  rejecting : session.Rejects command → reply.PrintsError

variable {package : Dot.Package} {session : Session} {reply : Reply}

/-! ## Commands that leave the models as they are -/

theorem follows_of_same
    {command : Command}
    (same : reply.session.catalog = session.catalog)
    (effect : session.Effect session.catalog command)
    (reads : ¬session.Rejects command) :
    session.Follows command reply where
  effect := same ▸ effect
  strict := congrArg Catalog.strict same
  failing := fun _ _ => same
  rejecting := fun rejects => absurd rejects reads

/-- A command that prints no error and is not rejected only has to have its effect. -/
theorem follows_of_quiet
    {command : Command}
    (effect : session.Effect reply.session.catalog command)
    (strict : reply.session.catalog.strict = session.catalog.strict)
    (quiet : ¬reply.PrintsError)
    (reads : ¬session.Rejects command) :
    session.Follows command reply where
  effect := effect
  strict := strict
  failing := fun prints => absurd prints quiet
  rejecting := fun rejects => absurd rejects reads

/-- Whatever comes of rendering, the models stay as they are. -/
theorem catalog_graph
    (session : Session) (name : String) (automaton : Automaton) (word : Option String) :
    (session.graph package name automaton word).session.catalog = session.catalog := by
  have same := (session.agrees_draw name automaton word).catalog
  unfold graph
  dsimp only
  split
  · exact same.symm
  · rw [session_report]
    exact same.symm

/-! ## Commands that change models -/

section Load

variable {path content : String}
  (read : session.files.readText path = .ok content)
include read

theorem load_of_accepted (accepted : (session.freshReading content).failure = none) :
    (session.load path).session.catalog = (session.freshReading content).catalog ∧
      (session.load path).output = loadedLine (session.freshReading content).catalog := by
  have reading : session.catalog.reload content = session.freshReading content := rfl
  unfold load
  rw [read]
  dsimp only
  rw [reading, accepted]
  exact ⟨rfl, rfl⟩

/-- A file that is read but refused leaves no models, and the refusal is printed. -/
theorem load_of_refused
    {failure : LineFailure}
    (refused : (session.freshReading content).failure = some failure) :
    (session.load path).session.catalog = { strict := session.catalog.strict } ∧
      (session.load path).output = errorLine failure.message := by
  have reading : session.catalog.reload content = session.freshReading content := rfl
  have emptied := congrArg Reading.catalog (Catalog.read_of_fails refused)
  unfold load
  rw [read]
  dsimp only
  rw [reading, refused]
  exact ⟨emptied, rfl⟩

end Load

/-- Models that are loaded have names without line breaks. -/
theorem namesOneLine_freshReading (session : Session) (content : String) :
    (session.freshReading content).catalog.NamesOneLine :=
  Catalog.namesOneLine_read session.catalog.namesOneLine_clear content

theorem strict_freshReading (session : Session) (content : String) :
    (session.freshReading content).catalog.strict = session.catalog.strict :=
  Catalog.strict_read _ content

/-- Loading replaces all models, leaves none, or leaves all as they are. -/
theorem follows_load (session : Session) (path : String) (extra : Option String) :
    session.Follows (.perform .load path extra) (session.load path) := by
  cases read : session.files.readText path with
  | error error =>
      have reported : session.load path = session.report (.file error) := by
        rw [load, read]
      have unread : ¬session.Rejects (.perform .load path extra) := by
        rintro ⟨content, found, _⟩
        rw [read] at found
        cases found
      rw [reported]
      apply follows_of_same
      · rw [session_report]
      · simp only [Effect, read]
      · exact unread
  | ok content =>
      cases failed : (session.freshReading content).failure with
      | none =>
          rcases load_of_accepted read failed with ⟨catalog, output⟩
          rcases loadedLine_eq (session.namesOneLine_freshReading content) with
            ⟨text, single, oneLine, other⟩
          apply follows_of_quiet
          · simp only [Effect, read, failed]
            exact ⟨fun _ => catalog, fun refused => absurd rfl refused⟩
          · rw [catalog, strict_freshReading]
          · exact not_printsError_of_line (output.trans single) oneLine other
          · rintro ⟨found, same, refused⟩
            rw [read] at same
            cases same
            exact absurd failed refused
      | some failure =>
          rcases load_of_refused read failed with ⟨catalog, output⟩
          constructor
          · simp only [Effect, read, failed]
            refine ⟨fun accepted => ?_, fun _ => ?_⟩
            · cases accepted
            · rw [catalog]
              exact ⟨rfl, rfl⟩
          · rw [catalog]
          · intro _ accepted
            exact absurd ⟨content, read, by simp [failed]⟩ accepted
          · exact fun _ => printsError_of_errorLine output

theorem isOneLine_getD
    {name : String} {extra : Option String}
    (nameOneLine : IsOneLine name)
    (extraOneLine : ∀ given ∈ extra, IsOneLine given)
    {ending : String}
    (endingOneLine : IsOneLine ending) :
    IsOneLine (extra.getD (name ++ ending)) := by
  cases extra with
  | none => exact nameOneLine.append endingOneLine
  | some given => exact extraOneLine given rfl

/-- A grammar is added when the conversion goes through, and nothing else changes. -/
theorem follows_toGrammar
    (session : Session)
    {name : String} {extra : Option String}
    (oneLine : (Command.perform .toGrammar name extra).OneLine) :
    session.Follows (.perform .toGrammar name extra)
      (session.perform package .toGrammar name extra) := by
  have result : IsOneLine (extra.getD (name ++ "_rg")) :=
    isOneLine_getD oneLine.1 oneLine.2 (by decide)
  rw [perform, withAutomaton]
  cases found : session.catalog.automata.get? name with
  | none =>
      refine follows_of_same rfl ?_ id
      simp [Effect, grammarMade?, found]
  | some automaton =>
      dsimp only [toGrammar]
      cases outcome : (automaton.toGrammar (some (extra.getD (name ++ "_rg")))).error with
      | some error =>
          refine follows_of_same rfl ?_ id
          simp [Effect, grammarMade?, found, Outcome.result?, outcome]
      | none =>
          refine follows_of_quiet ?_ rfl ?_ id
          · simp only [Effect, grammarMade?, found, Option.bind_some, Outcome.result?, outcome]
            exact ⟨rfl, Table.puts_insert _ _ _⟩
          · exact not_printsError_of_name rfl (by decide) result (by decide)

/-- An automaton is added when the conversion goes through, and nothing else changes. -/
theorem follows_toAutomaton
    (session : Session)
    {name : String} {extra : Option String}
    (oneLine : (Command.perform .toAutomaton name extra).OneLine) :
    session.Follows (.perform .toAutomaton name extra)
      (session.perform package .toAutomaton name extra) := by
  have result : IsOneLine (extra.getD (name ++ "_dfa")) :=
    isOneLine_getD oneLine.1 oneLine.2 (by decide)
  rw [perform, withGrammar]
  cases found : session.catalog.grammars.get? name with
  | none =>
      refine follows_of_same rfl ?_ id
      simp [Effect, automatonMade?, found]
  | some grammar =>
      dsimp only [toAutomaton]
      cases outcome : (grammar.toAutomaton (some (extra.getD (name ++ "_dfa")))).error with
      | some error =>
          refine follows_of_same rfl ?_ id
          simp [Effect, automatonMade?, found, Outcome.result?, outcome]
      | none =>
          refine follows_of_quiet ?_ rfl ?_ id
          · simp only [Effect, automatonMade?, found, Option.bind_some, Outcome.result?, outcome]
            exact ⟨rfl, Table.puts_insert _ _ _⟩
          · exact not_printsError_of_name rfl (by decide) result (by decide)

/-- Deletion takes out what has the name, and nothing else. -/
theorem follows_delete
    (session : Session)
    {name : String} {extra : Option String}
    (oneLine : IsOneLine name) :
    session.Follows (.perform .delete name extra) (session.delete name) := by
  unfold delete
  dsimp only
  split
  · refine follows_of_quiet ?_ rfl ?_ id
    · exact ⟨Table.drops_erase _ name, Table.drops_erase _ name⟩
    · exact not_printsError_of_name rfl (by decide) oneLine (by decide)
  · rename_i unknown
    rw [not_or] at unknown
    exact follows_of_same rfl ⟨.inl ⟨unknown.1, rfl⟩, .inl ⟨unknown.2, rfl⟩⟩ id

theorem follows_clear (session : Session) :
    session.Follows .clear (session.respond package .clear) :=
  follows_of_quiet ⟨rfl, rfl⟩ rfl (not_printsError_of_line rfl (by decide) (by decide)) id

/-! ## All commands -/

/-- Each action changes the models as it says, drawing and rendering not at all. -/
theorem follows_perform
    (session : Session)
    {action : Action} {name : String} {extra : Option String}
    (oneLine : (Command.perform action name extra).OneLine) :
    session.Follows (.perform action name extra) (session.perform package action name extra) := by
  cases action with
  | load => exact session.follows_load name extra
  | showAutomaton | showGrammar | test | validate | dot =>
      refine follows_of_same (Eq.symm ?_) rfl id
      exact (unchanged_perform session (by exact trivial) name extra).session.catalog
  | graph =>
      have same : (session.perform package .graph name extra).session.catalog =
          session.catalog :=
        withAutomaton_of (fun reply => reply.session.catalog = session.catalog)
          (fun automaton => session.catalog_graph name automaton extra) fun _ => rfl
      exact follows_of_same same rfl id
  | toGrammar => exact session.follows_toGrammar oneLine
  | toAutomaton => exact session.follows_toAutomaton oneLine
  | delete => exact session.follows_delete oneLine.1

/-- Each command changes the models as it says. -/
theorem follows_respond
    (session : Session)
    {command : Command}
    (oneLine : command.OneLine) :
    session.Follows command (session.respond package command) := by
  cases command with
  | blank | exit | help | list | incomplete | unknown => exact follows_of_same rfl rfl id
  | clear => exact session.follows_clear
  | perform action name extra => exact session.follows_perform oneLine

/-! ## Models that no input names -/

theorem model?_of_tables
    {behind : Catalog} {key : ModelKey}
    (automata : ∀ name, key = .automaton name →
      behind.automata.get? name = session.catalog.automata.get? name)
    (grammars : ∀ name, key = .grammar name →
      behind.grammars.get? name = session.catalog.grammars.get? name) :
    behind.model? key = session.catalog.model? key := by
  cases key with
  | automaton name => exact congrArg (Option.map Model.automaton) (automata name rfl)
  | grammar name => exact congrArg (Option.map Model.grammar) (grammars name rfl)

/-- What a command does to the models leaves those alone that it does not name. -/
theorem model?_of_effect
    {behind : Catalog} {command : Command} {key : ModelKey}
    (effect : session.Effect behind command)
    (other : ¬command.Names key) :
    behind.model? key = session.catalog.model? key := by
  cases command with
  | blank | exit | help | list | incomplete | unknown => exact congrArg (·.model? key) effect
  | clear => exact absurd trivial other
  | perform action name extra =>
      cases action with
      | load => exact absurd trivial other
      | showAutomaton | showGrammar | test | validate | dot | graph =>
          exact congrArg (·.model? key) effect
      | toGrammar =>
          rcases effect with ⟨automata, grammars⟩
          apply model?_of_tables
          · exact fun _ _ => congrArg (Table.get? · _) automata
          · rintro given rfl
            split at grammars
            · exact grammars.get?_of_ne fun same => other (congrArg ModelKey.grammar same)
            · exact congrArg (Table.get? · _) grammars
      | toAutomaton =>
          rcases effect with ⟨grammars, automata⟩
          apply model?_of_tables
          · rintro given rfl
            split at automata
            · exact automata.get?_of_ne fun same => other (congrArg ModelKey.automaton same)
            · exact congrArg (Table.get? · _) automata
          · exact fun _ _ => congrArg (Table.get? · _) grammars
      | delete =>
          rcases effect with ⟨automata, grammars⟩
          apply model?_of_tables
          · rintro given rfl
            exact automata.get?_of_ne fun same => other (.inl (congrArg ModelKey.automaton same))
          · rintro given rfl
            exact grammars.get?_of_ne fun same => other (.inr (congrArg ModelKey.grammar same))

/-- An input leaves the models alone that it does not name. -/
theorem model?_answer
    (session : Session)
    {input : Input} {key : ModelKey}
    (other : ¬input.Names key) :
    (session.answer package input).session.catalog.model? key = session.catalog.model? key := by
  cases input with
  | line text =>
      exact model?_of_effect (session.follows_respond (Command.oneLine_ofLine text)).effect other
  | interrupt => rfl

/-- A model stays as it is as long as no input names it. -/
theorem model?_after
    {inputs : List Input} {key : ModelKey}
    (others : ∀ input ∈ inputs, ¬input.Names key) :
    (session.after package inputs).catalog.model? key = session.catalog.model? key := by
  induction inputs generalizing session with
  | nil => rfl
  | cons input rest ih =>
      rw [List.forall_mem_cons] at others
      rw [after_cons, ih others.2, session.model?_answer others.1]

/--
Whatever package draws graphs, every command line changes the models as its command says,
and keeps how strict they are.  When it prints an error it changes nothing, unless it loads
a file that is read but refused; then it prints an error, and no models are left.
-/
theorem answer_follows (package : Dot.Package) (session : Session) (text : String) :
    session.Follows (Command.ofLine text) (session.answer package (.line text)) :=
  session.follows_respond (Command.oneLine_ofLine text)

end Session

end Terminal

end RegularModels
