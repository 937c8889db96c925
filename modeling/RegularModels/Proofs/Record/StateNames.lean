import RegularModels.Proofs.Automaton.Connection
import RegularModels.Proofs.Record.Naming

/-!
# Names of states that are read

A line is cut at its colons, so none is left in what a record holds, nor in the names of
the states that it declares.  What an automaton calls its initial state or joins by
transitions was one of its states when it was written, so its name holds no colon either,
also when it is not declared any more.
-/

namespace RegularModels

open Text (trim)

/-- The content of a record holds no colon, since its line is cut at all of them. -/
theorem Record.colon_not_mem_payload
    {record : Record} {line : String}
    (written : record.WrittenIn line) :
    ':' ∉ record.payload.toList := by
  rcases written with ⟨_, _, payload, _, ⟨_, _, whole⟩, _, _, payloadEq⟩
  rw [payloadEq]
  exact fun member => whole (Text.mem_of_mem_trim member)

namespace Automaton

/-- The state is the initial one or has a transition from or to it. -/
def Touched (automaton : Automaton) (state : String) : Prop :=
  automaton.initial = some state ∨
    ∃ source symbol target, automaton.target? source symbol = some target ∧
      (state = source ∨ state = target)

/-- The character is in no name of a state that is declared or touched. -/
structure StatesAvoid (mark : Char) (automaton : Automaton) : Prop where
  declared : ∀ state ∈ automaton.states, mark ∉ state.toList
  touched : ∀ state, automaton.Touched state → mark ∉ state.toList

variable {mark : Char} {automaton : Automaton}

theorem statesAvoid_new (mark : Char) (name : String) (strict : Bool) :
    StatesAvoid mark { name, strict } := by
  constructor
  · intro state member
    cases member
  · rintro state (initial | ⟨_, _, _, found, _⟩)
    · cases initial
    · cases found

theorem Touched.of_connect
    {transition : Transition} {state : String}
    (touched : (automaton.connect transition).Touched state) :
    state = transition.source ∨ state = transition.target ∨ automaton.Touched state := by
  rcases touched with initial | ⟨source, symbol, target, found, ends⟩
  · exact .inr (.inr (.inl initial))
  · rw [target?_connect] at found
    split at found
    · rename_i pair
      rw [Transition.pair, Prod.mk.injEq] at pair
      rw [pair.1, Option.some.inj found]
      exact ends.imp_right .inl
    · exact .inr (.inr (.inr ⟨source, symbol, target, found, ends⟩))

namespace StatesAvoid

/-- A transition brings no new states, whether it is accepted or refused. -/
theorem insertTransition
    (avoids : StatesAvoid mark automaton)
    (transition : Transition) :
    StatesAvoid mark (automaton.insertTransition transition).model := by
  rcases automaton.model_insertTransition transition with same | ⟨accepted, written⟩
  · rw [same]
    exact avoids
  · rw [written]
    have declares := undeclared?_eq_none_iff.mp (undeclared?_of_succeeds accepted)
    refine ⟨avoids.declared, ?_⟩
    intro state touched
    rcases touched.of_connect with rfl | rfl | earlier
    · exact avoids.declared _ declares.source
    · exact avoids.declared _ declares.target
    · exact avoids.touched _ earlier

theorem addPiece
    (avoids : StatesAvoid mark automaton)
    (piece : String) :
    StatesAvoid mark (automaton.addPiece piece).model := by
  unfold Automaton.addPiece
  split
  · exact avoids.insertTransition _
  · exact avoids

theorem setInitial
    (avoids : StatesAvoid mark automaton)
    (name : String) :
    StatesAvoid mark (automaton.setInitial name).model := by
  unfold Automaton.setInitial
  split
  · rename_i declared
    refine ⟨avoids.declared, ?_⟩
    rintro state (initial | joined)
    · exact Option.some.inj initial ▸ avoids.declared _ declared
    · exact avoids.touched state (.inr joined)
  · exact avoids

/-- Only new states bring new names, and these are pieces of what the record holds. -/
theorem setField
    (avoids : StatesAvoid mark automaton)
    {payload : String}
    (whole : mark ∉ payload.toList)
    (field : AutomatonField) :
    StatesAvoid mark (automaton.setField field payload).model := by
  cases field with
  | states =>
      refine ⟨?_, avoids.touched⟩
      intro state member
      rcases List.mem_map.mp (NameSet.mem_ofList.mp member) with ⟨piece, isPiece, rfl⟩
      exact fun inside => whole (Text.mem_of_mem_pieces isPiece (Text.mem_of_mem_trim inside))
  | alphabet => exact ⟨avoids.declared, avoids.touched⟩
  | initial => exact avoids.setInitial payload
  | finals =>
      simp only [Automaton.setField, setFinals]
      split
      · exact avoids
      · exact ⟨avoids.declared, avoids.touched⟩
  | transitions =>
      exact Outcome.each_model_of (StatesAvoid mark) (fun _ piece held => held.addPiece piece)
        avoids _

end StatesAvoid

end Automaton

namespace Catalog

/-- No state of an automaton, declared or touched, has a colon in its name. -/
def StatesAvoidColon (catalog : Catalog) : Prop :=
  ∀ name automaton, catalog.automata.get? name = some automaton →
    automaton.StatesAvoid ':'

variable {catalog : Catalog}

theorem statesAvoidColon_clear (catalog : Catalog) : catalog.clear.StatesAvoidColon := by
  intro name automaton found
  cases found

namespace StatesAvoidColon

theorem automaton
    (avoids : catalog.StatesAvoidColon)
    (name : String) :
    (catalog.automaton name).StatesAvoid ':' := by
  unfold Catalog.automaton
  cases found : catalog.automata.get? name with
  | none => exact Automaton.statesAvoid_new ':' name catalog.strict
  | some automaton => exact avoids name automaton found

theorem applyRecord
    (avoids : catalog.StatesAvoidColon)
    {record : Record}
    (whole : ':' ∉ record.payload.toList) :
    (catalog.applyRecord record).model.StatesAvoidColon := by
  unfold Catalog.applyRecord
  split
  · rename_i field _
    intro name automaton found
    simp only [Outcome.map, putAutomaton, Table.get?_insert] at found
    split at found
    · cases found
      exact (avoids.automaton record.name).setField whole field
    · exact avoids name automaton found
  · exact avoids

theorem applyLine
    (avoids : catalog.StatesAvoidColon)
    (line : String) :
    (catalog.applyLine line).model.StatesAvoidColon := by
  unfold Catalog.applyLine
  split
  · rename_i record found
    exact avoids.applyRecord (Record.colon_not_mem_payload (Record.ofLine_eq_ok_iff.mp found))
  · exact avoids

theorem read
    (avoids : catalog.StatesAvoidColon)
    (content : String) :
    (catalog.read content).catalog.StatesAvoidColon := by
  have applied : (catalog.applyEach (contentLines content)).model.StatesAvoidColon :=
    Outcome.each_model_of StatesAvoidColon (fun _ line held => held.applyLine (trim line))
      avoids _
  cases failed : (catalog.read content).failure with
  | none =>
      rw [read_of_succeeds (failure_read_eq_none_iff.mp failed)]
      exact applied
  | some failure =>
      rw [read_of_fails failed]
      exact catalog.statesAvoidColon_clear

end StatesAvoidColon

/-- States that are read hold no colon. -/
theorem statesAvoidColon_reload (catalog : Catalog) (content : String) :
    (catalog.reload content).catalog.StatesAvoidColon :=
  catalog.statesAvoidColon_clear.read content

end Catalog

end RegularModels
