import RegularModels.Proofs.Automaton.WellFormed
import RegularModels.Proofs.Grammar.WellFormed
import RegularModels.Proofs.Guarded
import RegularModels.Workspace

/-!
# Reference integrity

A history of a workspace makes new automata and grammars, changes and runs them, and
converts one into the other.  Every operation leaves each well-formed model well-formed,
whether it goes through or is refused, unless it replaces a set of declared names by one
that misses a name the model refers to; what a conversion makes is well-formed in any
case.  So all models of a history in which no name that is referred to gets lost are
well-formed.
-/

namespace RegularModels

/-! ## Results of conversions -/

/-- Whatever the automaton is like, its grammar is put together from declared names. -/
theorem Automaton.wellFormed_toGrammar (automaton : Automaton) (name : Option String) :
    (automaton.toGrammar name).model.WellFormed := by
  have symbols : (automaton.grammarSymbols (nameOr name (automaton.name ++ "_rg"))).WellFormed := by
    apply Grammar.WellFormed.setTerminals
    rw [(Grammar.wellFormed_new _).setNonTerminals_iff]
    exact fun _ referred => absurd referred List.not_mem_nil
  have started := symbols.setStart (automaton.initial.getD "")
  have filled := Outcome.each_model_of Grammar.WellFormed
    (fun _ production kept => kept.addProduction production.lhs production.rhs) started
    automaton.productions
  exact Outcome.andThen_model_of _ started (Outcome.andThen_model_of _ filled filled)

/-- Whatever the grammar is like, its automaton is put together from declared names. -/
theorem Grammar.wellFormed_toAutomaton (grammar : Grammar) (name : Option String) :
    (grammar.toAutomaton name).model.WellFormed := by
  have framed : (grammar.automatonFrame grammar.blueprint
      (nameOr name (grammar.name ++ "_dfa"))).WellFormed := by
    rw [automatonFrame, Automaton.WellFormed.setAlphabet_iff]
    · exact fun _ referred => absurd referred List.not_mem_nil
    · rw [(Automaton.wellFormed_new _ _).setStates_iff]
      exact fun _ referred => absurd referred List.not_mem_nil
  have started := framed.setInitial (grammar.start.getD "")
  have connected := started.addAll grammar.blueprint.transitions
  have finished := connected.setFinals grammar.blueprint.finals
  exact Outcome.andThen_model_of _ started (Outcome.andThen_model_of _ connected
    (Outcome.andThen_model_of _ finished finished))

namespace Workspace

/-! ## Histories -/

/-- Everything that can be done with the models of a workspace. -/
inductive Operation where
  | newMachine (name : String) (strict : Bool)
  | newGrammar (name : String)
  /-- Carry out an operation on the machine of a place. -/
  | onMachine (place : Nat) (operation : Machine.Operation)
  /-- Carry out an operation on the grammar of a place. -/
  | onGrammar (place : Nat) (operation : Grammar.Operation)
  /-- Keep the grammar of an automaton, if the conversion goes through. -/
  | toGrammar (place : Nat) (name : Option String)
  /-- Keep the automaton of a grammar, if the conversion goes through. -/
  | toAutomaton (place : Nat) (name : Option String)

/-- Carry out a step of a history; a model that comes of a conversion gets a place of its own. -/
def apply (workspace : Workspace) : Operation → Workspace
  | .newMachine name strict => workspace.keepMachine none (.new name strict)
  | .newGrammar name => workspace.keepGrammar none { name }
  | .onMachine place operation => (workspace.applyMachine place operation).workspace
  | .onGrammar place operation => (workspace.applyGrammar place operation).workspace
  | .toGrammar place name =>
    let outcome := (workspace.machine place).automaton.toGrammar name
    if outcome.Succeeds then workspace.keepGrammar none outcome.model else workspace
  | .toAutomaton place name =>
    let outcome := (workspace.grammar place).toAutomaton name
    if outcome.Succeeds then workspace.keepMachine none { automaton := outcome.model }
    else workspace

/-- What a history makes of an empty workspace. -/
def after (operations : List Operation) : Workspace :=
  operations.foldl apply {}

theorem after_concat (operations : List Operation) (operation : Operation) :
    after (operations ++ [operation]) = (after operations).apply operation := by
  rw [after, List.foldl_append]
  rfl

/-! ## Well-formed models -/

/-- The model that a handle refers to is well-formed, if there is one. -/
def WellFormedAt (workspace : Workspace) : Handle → Prop
  | .machine place => ∀ machine ∈ workspace.machines[place]?, machine.automaton.WellFormed
  | .grammar place => ∀ grammar ∈ workspace.grammars[place]?, grammar.WellFormed
  | .reader _ => True

instance (workspace : Workspace) : (handle : Handle) → Decidable (workspace.WellFormedAt handle)
  | .machine place => inferInstanceAs (Decidable (∀ _ ∈ workspace.machines[place]?, _))
  | .grammar place => inferInstanceAs (Decidable (∀ _ ∈ workspace.grammars[place]?, _))
  | .reader _ => isTrue trivial

/-- The operation puts other names in the place of all states, symbols or non-terminals. -/
def Operation.ReplacesNames : Operation → Prop
  | .onMachine _ (.setStates _) | .onMachine _ (.setAlphabet _)
  | .onGrammar _ (.setNonTerminals _) => True
  | _ => False

/--
If the operation replaces declared names of the model that a handle refers to, the new
ones include every name that the model refers to.
-/
def Operation.Retains (workspace : Workspace) : Operation → Handle → Prop
  | .onMachine place operation, .machine other =>
    place = other →
      ∀ machine ∈ workspace.machines[place]?, operation.Retains machine.automaton
  | .onGrammar place operation, .grammar other =>
    place = other → ∀ grammar ∈ workspace.grammars[place]?, operation.Retains grammar
  | _, _ => True

instance (workspace : Workspace) :
    (operation : Operation) → (handle : Handle) → Decidable (operation.Retains workspace handle)
  | .onMachine .., .machine _ | .onGrammar .., .grammar _ =>
    inferInstanceAs (Decidable (_ → ∀ _ ∈ _, _))
  | .onMachine .., .grammar _ | .onMachine .., .reader _ | .onGrammar .., .machine _
  | .onGrammar .., .reader _ | .newMachine .., _ | .newGrammar _, _ | .toGrammar .., _
  | .toAutomaton .., _ => isTrue trivial

variable {workspace : Workspace} {handle : Handle} {place : Nat}

/-- Only declaring names anew can leave references behind. -/
theorem Operation.retains_of_not_replacesNames
    {operation : Operation}
    (others : ¬operation.ReplacesNames) :
    operation.Retains workspace handle := by
  cases operation with
  | onMachine place operation =>
      cases handle with
      | machine other =>
          intro _ machine _
          cases operation with
          | setStates names | setAlphabet symbols => exact absurd trivial others
          | _ => trivial
      | grammar other | reader other => trivial
  | onGrammar place operation =>
      cases handle with
      | grammar other =>
          intro _ grammar _
          cases operation with
          | setNonTerminals symbols => exact absurd trivial others
          | _ => trivial
      | machine other | reader other => trivial
  | _ => trivial

theorem WellFormedAt.keepMachine
    (wellFormed : workspace.WellFormedAt handle)
    {machine : Machine}
    (new : machine.automaton.WellFormed) :
    (workspace.keepMachine none machine).WellFormedAt handle := by
  cases handle with
  | machine place =>
      intro found member
      change (workspace.machines.push machine)[place]? = some found at member
      rw [Array.getElem?_push] at member
      split at member
      · rw [← Option.some.inj member]
        exact new
      · exact wellFormed found member
  | grammar place => exact wellFormed
  | reader place => trivial

theorem WellFormedAt.keepGrammar
    (wellFormed : workspace.WellFormedAt handle)
    {grammar : Grammar}
    (new : grammar.WellFormed) :
    (workspace.keepGrammar none grammar).WellFormedAt handle := by
  cases handle with
  | machine place => exact wellFormed
  | grammar place =>
      intro found member
      change (workspace.grammars.push grammar)[place]? = some found at member
      rw [Array.getElem?_push] at member
      split at member
      · rw [← Option.some.inj member]
        exact new
      · exact wellFormed found member
  | reader place => trivial

theorem machine_of_getElem?
    {machine : Machine}
    (found : workspace.machines[place]? = some machine) :
    workspace.machine place = machine := by
  rw [Workspace.machine, Array.getD_eq_getD_getElem?, found, Option.getD_some]

theorem grammar_of_getElem?
    {grammar : Grammar}
    (found : workspace.grammars[place]? = some grammar) :
    workspace.grammar place = grammar := by
  rw [Workspace.grammar, Array.getD_eq_getD_getElem?, found, Option.getD_some]

/-- An operation on a machine replaces that machine and no other model. -/
theorem WellFormedAt.applyMachine_iff
    (wellFormed : workspace.WellFormedAt handle)
    (operation : Machine.Operation) :
    (workspace.apply (.onMachine place operation)).WellFormedAt handle ↔
      (Operation.onMachine place operation).Retains workspace handle := by
  cases handle with
  | machine other =>
      simp only [WellFormedAt, Operation.Retains, Workspace.apply, applyMachine, setMachine,
        Array.getElem?_setIfInBounds]
      by_cases same : place = other
      · subst same
        cases found : workspace.machines[place]? with
        | none =>
            have missing := Array.getElem?_eq_none_iff.mp found
            simp [Nat.not_lt.mpr missing]
        | some machine =>
            have known := (Array.getElem?_eq_some_iff.mp found).1
            have kept := (wellFormed machine found).apply_iff operation
            simpa [known, machine_of_getElem? found] using kept
      · simp only [if_neg same]
        exact iff_of_true wellFormed fun equal => absurd equal same
  | grammar other => exact iff_of_true wellFormed trivial
  | reader other => exact iff_of_true trivial trivial

/-- An operation on a grammar replaces that grammar and no other model. -/
theorem WellFormedAt.applyGrammar_iff
    (wellFormed : workspace.WellFormedAt handle)
    (operation : Grammar.Operation) :
    (workspace.apply (.onGrammar place operation)).WellFormedAt handle ↔
      (Operation.onGrammar place operation).Retains workspace handle := by
  cases handle with
  | machine other => exact iff_of_true wellFormed trivial
  | grammar other =>
      simp only [WellFormedAt, Operation.Retains, Workspace.apply, applyGrammar, setGrammar,
        Array.getElem?_setIfInBounds]
      by_cases same : place = other
      · subst same
        cases found : workspace.grammars[place]? with
        | none =>
            have missing := Array.getElem?_eq_none_iff.mp found
            simp [Nat.not_lt.mpr missing]
        | some grammar =>
            have known := (Array.getElem?_eq_some_iff.mp found).1
            have kept := (wellFormed grammar found).apply_iff operation
            simpa [known, grammar_of_getElem? found] using kept
      · simp only [if_neg same]
        exact iff_of_true wellFormed fun equal => absurd equal same
  | reader other => exact iff_of_true trivial trivial

/-- One operation keeps a model well-formed exactly when it retains its names. -/
theorem WellFormedAt.apply_iff
    (wellFormed : workspace.WellFormedAt handle)
    (operation : Operation) :
    (workspace.apply operation).WellFormedAt handle ↔ operation.Retains workspace handle := by
  cases operation with
  | newMachine name strict =>
      exact iff_of_true (wellFormed.keepMachine (Automaton.wellFormed_new name strict)) trivial
  | newGrammar name =>
      exact iff_of_true (wellFormed.keepGrammar (Grammar.wellFormed_new name)) trivial
  | onMachine place operation => exact wellFormed.applyMachine_iff operation
  | onGrammar place operation => exact wellFormed.applyGrammar_iff operation
  | toGrammar place name =>
      refine iff_of_true ?_ trivial
      rw [Workspace.apply]
      split
      · exact wellFormed.keepGrammar (Automaton.wellFormed_toGrammar _ name)
      · exact wellFormed
  | toAutomaton place name =>
      refine iff_of_true ?_ trivial
      rw [Workspace.apply]
      split
      · exact wellFormed.keepMachine (Grammar.wellFormed_toAutomaton _ name)
      · exact wellFormed

/-! ## Whole histories -/

/-- Histories in which every operation retains the names of all models keep them well-formed. -/
theorem wellFormedAt_after
    {operations : List Operation}
    (retained : InTurn (fun before operation => ∀ handle, operation.Retains (after before) handle)
      operations)
    (handle : Handle) :
    (after operations).WellFormedAt handle := by
  induction operations using List.reverseRecOn with
  | nil => cases handle <;> simp [after, WellFormedAt]
  | append_singleton operations operation ih =>
      rcases inTurn_concat_iff.mp retained with ⟨earlier, last⟩
      rw [after_concat, (ih earlier).apply_iff]
      exact last handle

/--
Along every history an operation keeps a well-formed model well-formed, also when it is
refused, unless it replaces states, symbols or non-terminals; then it does so exactly
when the new names include all that the model refers to.  When every such replacement
of a history does, all its models are well-formed.
-/
theorem wellFormedAt_history (operations : List Operation) :
    (∀ operation handle, ¬operation.ReplacesNames → (after operations).WellFormedAt handle →
        (after (operations ++ [operation])).WellFormedAt handle) ∧
      (∀ operation handle, (after operations).WellFormedAt handle →
        ((after (operations ++ [operation])).WellFormedAt handle ↔
          operation.Retains (after operations) handle)) ∧
      (InTurn (fun before operation => ∀ handle, operation.Retains (after before) handle)
          operations →
        ∀ handle, (after operations).WellFormedAt handle) := by
  have step : ∀ operation handle, (after operations).WellFormedAt handle →
      ((after (operations ++ [operation])).WellFormedAt handle ↔
        operation.Retains (after operations) handle) := by
    intro operation handle wellFormed
    rw [after_concat]
    exact wellFormed.apply_iff operation
  refine ⟨?_, step, wellFormedAt_after⟩
  intro operation handle others wellFormed
  exact (step operation handle wellFormed).mpr (Operation.retains_of_not_replacesNames others)

/-- The second of three transitions is refused, and then the first is the only one. -/
def stopped : List Operation :=
  [.newMachine "stopped" false, .onMachine 0 (.setStates ["p", " q "]),
    .onMachine 0 (.setAlphabet ["a"]), .onMachine 0 (.setInitial "p"),
    .onMachine 0 (.addTransitions "p,a,q;q,b,p;q,a,p")]

/-- States that include both ends of the transition may be chosen anew, others may not. -/
theorem wellFormedAt_history_stopped :
    (after stopped).WellFormedAt (.machine 0) ∧
      (after (stopped ++ [.toGrammar 0 none])).WellFormedAt (.machine 0) ∧
      (after (stopped ++ [.onMachine 0 (.setStates ["r", " p", "q"])])).WellFormedAt (.machine 0) ∧
      ¬(after (stopped ++ [.onMachine 0 (.setStates ["p", "r"])])).WellFormedAt (.machine 0) := by
  have wellFormed : (after stopped).WellFormedAt (.machine 0) := by decide +kernel
  rcases wellFormedAt_history stopped with ⟨kept, exactly, _⟩
  refine ⟨wellFormed, kept _ _ (fun replaces => replaces) wellFormed, ?_, ?_⟩
  · rw [exactly _ _ wellFormed]
    decide +kernel
  · rw [exactly _ _ wellFormed]
    decide +kernel

end Workspace

end RegularModels
