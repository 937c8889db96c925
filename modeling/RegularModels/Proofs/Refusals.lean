import RegularModels.Proofs.Automaton.Overwrites
import RegularModels.Proofs.Record.Reading
import RegularModels.Proofs.Text.Cuts

/-!
# What refused changes leave behind

A single change that is refused leaves everything as it was.  A list of changes is taken
piece by piece: it is stopped by the first piece that is malformed or refused, for the
reason of that piece, and leaves what the pieces before it have made, one after the other,
with what they have announced.  So a list in two parts is the one part and then the other.
-/

namespace RegularModels

open Text (trim)

namespace Outcome

variable {σ α ω : Type} {change : σ → α → Outcome σ} {model reached : σ} {items : List α}
  {events : List Event} {cause : ModelError}

/-! ## Changes that all go through -/

/-- The changes go through one after the other, lead there, and announce this in turn. -/
inductive LeadsTo (change : σ → α → Outcome σ) : σ → List α → σ → List Event → Prop where
  | nil (model : σ) : LeadsTo change model [] model []
  | cons {model next last : σ} {item : α} {rest : List α} {first later : List Event} :
      change model item = .announce next first → LeadsTo change next rest last later →
        LeadsTo change model (item :: rest) last (first ++ later)

/-- A list of changes goes through when each of them does where the others have led. -/
theorem each_eq_announce_iff :
    each change model items = .announce reached events ↔
      LeadsTo change model items reached events := by
  constructor
  · intro went
    induction items generalizing model events with
    | nil =>
        cases went
        exact .nil _
    | cons item rest ih =>
        rw [each] at went
        rcases changed : change model item with ⟨next, first, error⟩
        rw [changed] at went
        cases error with
        | some cause => cases went
        | none =>
            -- What is behind the first change is again a list that goes through.
            rcases further : each change next rest with ⟨last, later, error⟩
            simp only [andThen, further] at went
            cases went
            exact .cons changed (ih further)
  · intro leads
    induction leads with
    | nil model => rfl
    | cons changed _ ih =>
        rw [each, changed, andThen_announce, ih]
        rfl

/-! ## Changes that are stopped -/

/-- A change that is refused changes nothing and announces nothing. -/
def RefusesWhole (change : σ → α → Outcome σ) : Prop :=
  ∀ model item cause, (change model item).error = some cause →
    change model item = .refuse model cause

/--
What stops a list of changes is the first of them that is refused where the others have
led; it leaves what they have made and announced.
-/
theorem each_refused_iff (whole : RefusesWhole change) :
    each change model items = ⟨reached, events, some cause⟩ ↔
      ∃ before item after, items = before ++ item :: after ∧
        LeadsTo change model before reached events ∧
          change reached item = .refuse reached cause := by
  constructor
  · intro stopped
    induction items generalizing model events with
    | nil => cases stopped
    | cons item rest ih =>
        rw [each] at stopped
        rcases changed : change model item with ⟨next, first, error⟩
        rw [changed] at stopped
        cases error with
        | some other =>
            have refused := whole model item other (by rw [changed])
            rw [← changed, refused] at stopped
            cases stopped
            exact ⟨[], item, rest, rfl, .nil _, refused⟩
        | none =>
            rcases further : each change next rest with ⟨last, later, error⟩
            simp only [andThen, further] at stopped
            cases stopped
            rcases ih further with ⟨before, refusedItem, after, rfl, leads, refused⟩
            exact ⟨item :: before, refusedItem, after, rfl, .cons changed leads, refused⟩
  · rintro ⟨before, item, after, rfl, leads, refused⟩
    have went := each_eq_announce_iff.mpr leads
    have stops : (each change reached (item :: after)) = .refuse reached cause := by
      rw [each, refused]
      rfl
    rw [each_append, went, andThen_announce, stops, refuse, List.append_nil]

/-- A list of changes of a part is the list of its changes of the whole. -/
theorem map_each
    {τ : Type} {view : σ → τ} {wholeChange : τ → α → Outcome τ}
    (same : ∀ model item, (change model item).map view = wholeChange (view model) item)
    (model : σ) (items : List α) :
    (each change model items).map view = each wholeChange (view model) items := by
  induction items generalizing model with
  | nil => rfl
  | cons item rest ih =>
      rw [each, each, ← same]
      rcases change model item with ⟨next, events, error⟩
      cases error with
      | some cause => rfl
      | none =>
          simp only [andThen, map, ← ih]

/-! ## Texts of several changes -/

/-- Carry out the operation that is written in a piece of a text, unless it is malformed. -/
def applyWritten
    (apply : σ → ω → Outcome σ) (read? : String → Option ω) (malformed : String → ModelError)
    (model : σ) (piece : String) : Outcome σ :=
  match read? piece with
  | some operation => apply model operation
  | none => .refuse model (malformed (trim piece))

theorem applyWritten_refusesWhole
    {apply : σ → ω → Outcome σ} {read? : String → Option ω}
    (whole : ∀ model piece operation cause, read? piece = some operation →
      (apply model operation).error = some cause → apply model operation = .refuse model cause)
    (malformed : String → ModelError) :
    RefusesWhole (applyWritten apply read? malformed) := by
  intro model piece cause refused
  unfold applyWritten at refused ⊢
  cases read : read? piece with
  | some operation =>
      rw [read] at refused
      exact whole model piece operation cause read refused
  | none =>
      rw [read] at refused
      rw [← Option.some.inj refused]

/--
A text is taken piece by piece.  It goes through when its pieces do, one after the other;
otherwise the first that does not is the reason, and what the pieces before it have made
and announced stays.  So a text in two parts is the one part and then the other.
-/
structure PieceByPiece (one all : σ → String → Outcome σ) : Prop where
  accepted : ∀ model text reached events,
    all model text = .announce reached events ↔
      LeadsTo one model (Text.splitAtChar ';' text) reached events
  refused : ∀ model text reached events cause,
    all model text = ⟨reached, events, some cause⟩ ↔
      ∃ before piece after, Text.splitAtChar ';' text = before ++ piece :: after ∧
        LeadsTo one model before reached events ∧ one reached piece = .refuse reached cause
  joined : ∀ model left right,
    let first := all model left
    let second := all first.model right
    let whole := all model (left ++ ";" ++ right)
    (whole.Succeeds ↔ first.Succeeds ∧ second.Succeeds) ∧
      (whole.Succeeds → whole = .announce second.model (first.events ++ second.events))

/-- A change by pieces stops at the first piece that is refused, with the others made. -/
theorem pieceByPiece_each
    {one : σ → String → Outcome σ}
    (whole : RefusesWhole one) :
    PieceByPiece one fun model text => each one model (Text.splitAtChar ';' text) where
  accepted _ _ _ _ := each_eq_announce_iff
  refused _ _ _ _ _ := each_refused_iff whole
  joined model left right := by
    have cut : Text.splitAtChar ';' (left ++ ";" ++ right) =
        Text.splitAtChar ';' left ++ Text.splitAtChar ';' right := by
      have chars : (left ++ ";" ++ right).toList = left.toList ++ ';' :: right.toList := by simp
      rw [Text.splitAtChar, chars, Text.splitWhere_append_cons (beq_self_eq_true ';'),
        List.map_append]
      rfl
    simp only [cut, each_append]
    refine ⟨succeeds_andThen_iff, fun went => ?_⟩
    rcases succeeds_andThen_iff.mp went with ⟨first, second⟩
    rw [andThen_of_succeeds first, second]
    rfl

end Outcome

/-! ## Automata -/

namespace Machine

open Outcome (RefusesWhole PieceByPiece applyWritten)

theorem insertTransition_refusesWhole : RefusesWhole Automaton.insertTransition := by
  intro automaton transition cause refused
  rcases automaton.insertTransition_cases transition with ⟨error, same⟩ | ⟨_, _, written⟩
  · rw [same] at refused ⊢
    rw [Option.some.inj refused]
  · rw [written] at refused
    cases refused

theorem withAutomaton_refuse (machine : Machine) (cause : ModelError) :
    machine.withAutomaton (.refuse machine.automaton cause) = .refuse machine cause :=
  rfl

/-- An operation on its own that is refused leaves the machine as it was. -/
theorem apply_eq_refuse
    {machine : Machine} {operation : Operation} {cause : ModelError}
    (single : ∀ text, operation ≠ .addTransitions text)
    (refused : (machine.apply operation).error = some cause) :
    machine.apply operation = .refuse machine cause := by
  cases operation with
  | setStates | setAlphabet | reset | recognize => cases refused
  | addTransitions text => exact absurd rfl (single text)
  | setInitial name =>
      simp only [apply, Automaton.setInitial] at refused ⊢
      split at refused
      · cases refused
      · rw [if_neg ‹_›, withAutomaton_refuse, Option.some.inj refused]
  | setFinals names =>
      simp only [apply, Automaton.setFinals] at refused ⊢
      split at refused
      · rw [withAutomaton_refuse, Option.some.inj refused]
      · cases refused
  | addTransition source symbol target =>
      simp only [apply, withAutomaton, Outcome.map_error] at refused
      simp only [apply]
      rw [Automaton.addTransition, insertTransition_refusesWhole _ _ _ refused,
        withAutomaton_refuse]
  | process symbol =>
      simp only [apply, process] at refused ⊢
      cases advanced : machine.automaton.advance machine.run symbol with
      | notInitialized =>
          rw [advanced] at refused
          rw [← Option.some.inj refused]
      | refused state | moved run =>
          rw [advanced] at refused
          cases refused

/-- A symbol that is not consumed leaves the machine as it was. -/
theorem process_of_not_moved
    {machine : Machine} {symbol : String}
    (stays : ∀ run, (machine.process symbol).2 ≠ .moved run) :
    (machine.process symbol).1 = machine := by
  unfold process at stays ⊢
  cases advanced : machine.automaton.advance machine.run symbol with
  | notInitialized | refused state => rfl
  | moved run =>
      rw [advanced] at stays
      exact absurd rfl (stays run)

/-- The transition that a piece of a list asks for: its three fields between commas. -/
def Operation.ofPiece? (piece : String) : Option Operation :=
  match Text.splitAtChar ',' piece with
  | [source, symbol, target] => some (.addTransition source symbol target)
  | _ => none

/-- Add the transition that is written in one piece of a list. -/
def applyPiece : Machine → String → Outcome Machine :=
  applyWritten apply Operation.ofPiece? .malformedTransition

theorem withAutomaton_addPiece (machine : Machine) (piece : String) :
    machine.withAutomaton (machine.automaton.addPiece piece) = machine.applyPiece piece := by
  unfold applyPiece applyWritten Operation.ofPiece? Automaton.addPiece Transition.ofText?
    Text.pieces
  rcases Text.splitAtChar ',' piece with _ | ⟨source, _ | ⟨symbol, _ | ⟨target, _ | _⟩⟩⟩ <;> rfl

theorem applyPiece_refusesWhole : RefusesWhole applyPiece := by
  apply Outcome.applyWritten_refusesWhole
  intro machine piece operation cause read refused
  refine apply_eq_refuse ?_ refused
  rintro text rfl
  unfold Operation.ofPiece? at read
  split at read <;> cases read

theorem apply_addTransitions (machine : Machine) (text : String) :
    machine.apply (.addTransitions text) =
      .each applyPiece machine (Text.splitAtChar ';' text) := by
  have pieces : ∀ automaton piece, machine.withAutomaton (automaton.addPiece piece) =
      applyPiece { machine with automaton } piece :=
    fun automaton => withAutomaton_addPiece { machine with automaton }
  exact Outcome.map_each pieces machine.automaton (Text.splitAtChar ';' text)

/-- Transitions in a text are added piece by piece. -/
theorem pieceByPiece_addTransitions :
    PieceByPiece applyPiece fun machine text => machine.apply (.addTransitions text) := by
  simp only [apply_addTransitions]
  exact Outcome.pieceByPiece_each applyPiece_refusesWhole

end Machine

/-! ## Grammars -/

namespace Grammar

open Outcome (RefusesWhole PieceByPiece applyWritten)

/-- An operation on its own that is refused leaves the grammar as it was. -/
theorem apply_eq_refuse
    {grammar : Grammar} {operation : Operation} {cause : ModelError}
    (single : ∀ text, operation ≠ .addProductions text)
    (refused : (grammar.apply operation).error = some cause) :
    grammar.apply operation = .refuse grammar cause := by
  cases operation with
  | setNonTerminals | setTerminals => cases refused
  | addProductions text => exact absurd rfl (single text)
  | setStart symbol =>
      simp only [apply, setStart] at refused ⊢
      split at refused
      · cases refused
      · rw [if_neg ‹_›, Option.some.inj refused]
  | addProduction lhs rhs =>
      simp only [apply, addProduction, insertProduction] at refused ⊢
      split at refused
      · cases refused
      · rw [if_neg ‹_›, Option.some.inj refused]

/-- The production that a piece of a list asks for: its two sides around an arrow. -/
def Operation.ofPiece? (piece : String) : Option Operation :=
  match Text.splitAtText "->" piece with
  | [lhs, rhs] => some (.addProduction lhs rhs)
  | _ => none

/-- Add the production that is written in one piece of a list. -/
def applyPiece : Grammar → String → Outcome Grammar :=
  applyWritten apply Operation.ofPiece? .malformedProduction

theorem addPiece_eq_applyPiece : addPiece = applyPiece := by
  funext grammar piece
  unfold applyPiece applyWritten Operation.ofPiece? addPiece Production.ofText?
  rcases Text.splitAtText "->" piece with _ | ⟨lhs, _ | ⟨rhs, _ | _⟩⟩ <;> rfl

theorem applyPiece_refusesWhole : RefusesWhole applyPiece := by
  apply Outcome.applyWritten_refusesWhole
  intro grammar piece operation cause read refused
  refine apply_eq_refuse ?_ refused
  rintro text rfl
  unfold Operation.ofPiece? at read
  split at read <;> cases read

/-- Productions in a text are added piece by piece. -/
theorem pieceByPiece_addProductions :
    PieceByPiece applyPiece fun grammar text => grammar.apply (.addProductions text) := by
  simp only [apply, addProductions, addPiece_eq_applyPiece]
  exact Outcome.pieceByPiece_each applyPiece_refusesWhole

end Grammar

/-! ## All operations -/

/--
An operation of a machine or a grammar that is refused leaves it as it was in every field,
and so does a symbol that is not consumed.  Only a list of transitions or of productions
may be stopped midway: it takes its pieces one by one, and what those before the first
malformed or refused one have made and announced stays.  All that a list of transitions
announces is new targets, and a list of productions announces nothing.
-/
theorem refusals_leave_behind :
    (∀ (machine : Machine) operation cause, (∀ text, operation ≠ .addTransitions text) →
      (machine.apply operation).error = some cause →
        machine.apply operation = .refuse machine cause) ∧
    (∀ (machine : Machine) symbol, (∀ run, (machine.process symbol).2 ≠ .moved run) →
      (machine.process symbol).1 = machine) ∧
    Outcome.PieceByPiece Machine.applyPiece
      (fun machine text => machine.apply (.addTransitions text)) ∧
    (∀ (machine : Machine) text, ∀ event ∈ (machine.apply (.addTransitions text)).events,
      event.IsOverwrite) ∧
    (∀ (grammar : Grammar) operation cause, (∀ text, operation ≠ .addProductions text) →
      (grammar.apply operation).error = some cause →
        grammar.apply operation = .refuse grammar cause) ∧
    Outcome.PieceByPiece Grammar.applyPiece
      (fun grammar text => grammar.apply (.addProductions text)) ∧
    (∀ (grammar : Grammar) text, (grammar.apply (.addProductions text)).events = []) := by
  refine ⟨?_, ?_, Machine.pieceByPiece_addTransitions, ?_, ?_,
    Grammar.pieceByPiece_addProductions, ?_⟩
  · exact fun _ _ _ => Machine.apply_eq_refuse
  · exact fun machine symbol => Machine.process_of_not_moved
  · exact fun machine text => machine.automaton.isOverwrite_of_mem_events_addTransitions text
  · exact fun _ _ _ => Grammar.apply_eq_refuse
  · exact fun grammar text => Outcome.each_events_eq_nil Grammar.events_addPiece grammar _

/-- The second piece overwrites the first, and the third has only two fields. -/
theorem refusals_leave_behind_midway :
    let machine := Machine.after "m" [.setStates ["p", "q"], .setAlphabet ["a"]]
    let list := machine.apply (.addTransitions "q,a,q;q, a ,p; q,a ;p,a,p")
    machine.apply (.setFinals ["q", "r"]) = .refuse machine (.unknownFinalState "r") ∧
      list.model.automaton.transitions.entries = [(("q", "a"), "p")] ∧
      ∃ before piece after,
        Text.splitAtChar ';' "q,a,q;q, a ,p; q,a ;p,a,p" = before ++ piece :: after ∧
          Outcome.LeadsTo Machine.applyPiece machine before list.model
            [.transitionOverwrite "m" "q" "a" "q" "p"] ∧
          list.model.applyPiece piece = .refuse list.model (.malformedTransition "q,a") := by
  intro machine list
  rcases refusals_leave_behind with ⟨single, _, pieces, _⟩
  have finals : machine.apply (.setFinals ["q", "r"]) =
      .refuse machine (.unknownFinalState "r") :=
    single machine (.setFinals ["q", "r"]) _ (fun _ => nofun) (by decide +kernel)
  have stopped : list = ⟨list.model, [.transitionOverwrite "m" "q" "a" "q" "p"],
      some (.malformedTransition "q,a")⟩ := by
    decide +kernel
  exact ⟨finals, by decide +kernel, (pieces.refused _ _ _ _ _).mp stopped⟩

end RegularModels
