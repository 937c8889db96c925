import Mathlib.Data.List.Induction
import RegularModels.Proofs.Record.Format

/-!
# Independence of models

The records of a description belong to models: automata and grammars by name.  What a
record does to its model depends on that model alone, and it leaves all others as they
are.  So the lines of each model can be read on their own: a description is accepted
when the lines of every model are, and each model is what its own lines make of it.
-/

namespace RegularModels

open Text (trim)

/-! ## Changes of independent parts -/

namespace Outcome

variable {σ τ α κ : Type} [DecidableEq κ]

/--
Every change belongs to one key.  It goes by what is seen under this key, and what is
seen under other keys stays as it is.
-/
structure Independent
    (key : α → κ) (view : κ → σ → τ) (change : σ → α → Outcome σ) : Prop where
  others : ∀ model item other, other ≠ key item →
    view other (change model item).model = view other model
  succeeds : ∀ left right item, view (key item) left = view (key item) right →
    ((change left item).Succeeds ↔ (change right item).Succeeds)
  own : ∀ left right item, view (key item) left = view (key item) right →
    view (key item) (change left item).model = view (key item) (change right item).model

variable {key : α → κ} {view : κ → σ → τ} {change : σ → α → Outcome σ}

theorem filter_key_concat (items : List α) (item : α) (wanted : κ) :
    (items ++ [item]).filter (key · = wanted) =
      if key item = wanted then items.filter (key · = wanted) ++ [item]
      else items.filter (key · = wanted) := by
  rw [List.filter_append]
  by_cases same : key item = wanted <;> simp [same]

theorem succeeds_each_filter_concat_iff {model : σ} {items : List α} {item : α} :
    (∀ wanted, (each change model ((items ++ [item]).filter (key · = wanted))).Succeeds) ↔
      (∀ wanted, (each change model (items.filter (key · = wanted))).Succeeds) ∧
        (change (each change model (items.filter (key · = key item))).model item).Succeeds := by
  constructor
  · intro went
    refine ⟨fun wanted => ?_, ?_⟩
    · have here := went wanted
      rw [filter_key_concat] at here
      split at here
      · exact (succeeds_each_concat_iff.mp here).1
      · exact here
    · have here := went (key item)
      rw [filter_key_concat, if_pos rfl] at here
      exact (succeeds_each_concat_iff.mp here).2
  · rintro ⟨went, last⟩ wanted
    rw [filter_key_concat]
    split
    · rename_i here
      subst here
      exact succeeds_each_concat_iff.mpr ⟨went _, last⟩
    · exact went wanted

/--
Changes of independent parts go through when those of each part do, and every part is
then what its own changes make of it.
-/
theorem Independent.each_filter
    (independent : Independent key view change)
    (model : σ) (items : List α) :
    ((each change model items).Succeeds ↔
        ∀ wanted, (each change model (items.filter (key · = wanted))).Succeeds) ∧
      ((each change model items).Succeeds → ∀ wanted,
        view wanted (each change model items).model =
          view wanted (each change model (items.filter (key · = wanted))).model) := by
  -- A last change meets in its part what the changes of this part alone have left there.
  induction items using List.reverseRecOn with
  | nil => exact ⟨⟨fun _ _ => rfl, fun _ => rfl⟩, fun _ _ => rfl⟩
  | append_singleton items item ih =>
      rcases ih with ⟨earlier, same⟩
      constructor
      · rw [succeeds_each_filter_concat_iff, ← earlier, succeeds_each_concat_iff]
        refine and_congr_right fun went => ?_
        exact independent.succeeds _ _ _ (same went (key item))
      · intro went wanted
        rcases succeeds_each_concat_iff.mp went with ⟨before, last⟩
        rw [model_each_concat before, filter_key_concat]
        split
        · rename_i here
          subst here
          rw [model_each_concat (earlier.mp before (key item))]
          exact independent.own _ _ _ (same before (key item))
        · rename_i elsewhere
          rw [independent.others _ _ _ (Ne.symm elsewhere), same before wanted]

end Outcome

/-! ## Models of a catalog -/

/-- What a record belongs to: the automaton or the grammar of a name. -/
inductive ModelKey where
  | automaton (name : String)
  | grammar (name : String)
deriving DecidableEq, Repr

/-- A model of either family. -/
inductive Model where
  | automaton (automaton : Automaton)
  | grammar (grammar : Grammar)
deriving DecidableEq

/-- The model that a record is about. -/
def Record.key (record : Record) : ModelKey :=
  match record.field with
  | .automaton _ => .automaton record.name
  | .grammar _ => .grammar record.name

/-- The model that a line addresses, if a record is written in it. -/
def Record.keyIn? (line : String) : Option ModelKey :=
  match Record.ofLine (trim line) with
  | .ok record => some record.key
  | .error _ => none

namespace Catalog

/-- The model of a key, if the catalog holds it. -/
def model? (catalog : Catalog) : ModelKey → Option Model
  | .automaton name => (catalog.automata.get? name).map .automaton
  | .grammar name => (catalog.grammars.get? name).map .grammar

/-- What a record can see: whether new automata are strict, and its own model. -/
def seen (key : ModelKey) (catalog : Catalog) : Bool × Option Model :=
  (catalog.strict, catalog.model? key)

theorem automaton_eq_of_seen
    {left right : Catalog} {name : String}
    (same : seen (.automaton name) left = seen (.automaton name) right) :
    left.automaton name = right.automaton name := by
  rw [seen, seen, Prod.mk.injEq] at same
  have found : left.automata.get? name = right.automata.get? name :=
    Option.map_injective (fun _ _ equal => Model.automaton.inj equal) same.2
  rw [Catalog.automaton, Catalog.automaton, found, same.1]

theorem grammar_eq_of_seen
    {left right : Catalog} {name : String}
    (same : seen (.grammar name) left = seen (.grammar name) right) :
    left.grammar name = right.grammar name := by
  rw [seen, seen, Prod.mk.injEq] at same
  have found : left.grammars.get? name = right.grammars.get? name :=
    Option.map_injective (fun _ _ equal => Model.grammar.inj equal) same.2
  rw [Catalog.grammar, Catalog.grammar, found]

theorem seen_putAutomaton
    (catalog : Catalog) (name : String) (automaton : Automaton) (key : ModelKey) :
    seen key (catalog.putAutomaton name automaton) =
      if key = .automaton name then (catalog.strict, some (.automaton automaton))
      else seen key catalog := by
  cases key with
  | automaton other =>
      by_cases same : name = other
      · simp [seen, model?, putAutomaton, same]
      · simp [seen, model?, putAutomaton, same, Ne.symm same]
  | grammar other => simp [seen, model?, putAutomaton]

theorem seen_putGrammar
    (catalog : Catalog) (name : String) (grammar : Grammar) (key : ModelKey) :
    seen key (catalog.putGrammar name grammar) =
      if key = .grammar name then (catalog.strict, some (.grammar grammar))
      else seen key catalog := by
  cases key with
  | automaton other => simp [seen, model?, putGrammar]
  | grammar other =>
      by_cases same : name = other
      · simp [seen, model?, putGrammar, same]
      · simp [seen, model?, putGrammar, same, Ne.symm same]

/-- What a record does, and whether it is refused, depends on its own model only. -/
theorem independent_applyRecord :
    Outcome.Independent Record.key seen applyRecord where
  others := by
    rintro catalog ⟨field, name, payload⟩ other different
    cases field with
    | automaton field => exact (seen_putAutomaton _ _ _ other).trans (if_neg different)
    | grammar field => exact (seen_putGrammar _ _ _ other).trans (if_neg different)
  succeeds := by
    rintro left right ⟨field, name, payload⟩ same
    cases field with
    | automaton field =>
        simp only [applyRecord, automaton_eq_of_seen same]
        exact Iff.rfl
    | grammar field =>
        simp only [applyRecord, grammar_eq_of_seen same]
        exact Iff.rfl
  own := by
    rintro left right ⟨field, name, payload⟩ same
    have strict : left.strict = right.strict := congrArg Prod.fst same
    cases field with
    | automaton field =>
        simp only [applyRecord, Record.key, Outcome.map, seen_putAutomaton, if_pos,
          automaton_eq_of_seen same, strict]
    | grammar field =>
        simp only [applyRecord, Record.key, Outcome.map, seen_putGrammar, if_pos,
          grammar_eq_of_seen same, strict]

end Catalog

/-! ## The lines of one model -/

/-- The model that a line is about is that of the record in it. -/
theorem Record.keyIn?_of_writtenIn
    {record : Record} {line : String}
    (written : record.WrittenIn (trim line)) :
    Record.keyIn? line = some record.key := by
  rw [Record.keyIn?, Record.ofLine_eq_ok_iff.mpr written]

theorem Record.AllWrittenIn.filter_key
    {records : List Record} {lines : List String}
    (written : Record.AllWrittenIn records lines)
    (key : ModelKey) :
    Record.AllWrittenIn (records.filter (·.key = key))
      (lines.filter fun line => Record.keyIn? line = some key) := by
  induction written with
  | nil => exact .nil
  | @cons line record lines records first _ ih =>
      have keys := Record.keyIn?_of_writtenIn first
      by_cases same : record.key = key
      · rw [List.filter_cons_of_pos (by simpa using same),
          List.filter_cons_of_pos (by simpa [keys] using same)]
        exact .cons first ih
      · rw [List.filter_cons_of_neg (by simpa using same),
          List.filter_cons_of_neg (by simpa [keys] using same)]
        exact ih

namespace Catalog

/-- The lines of a text that are records about one model. -/
def linesOf (key : ModelKey) (content : String) : List String :=
  (contentLines content).filter fun line => Record.keyIn? line = some key

/-- The description that is left when all lines that do not address a model are dropped. -/
def only (key : ModelKey) (content : String) : String :=
  Text.unlines (linesOf key content)

theorem contentLines_unlines
    {content : String} {lines : List String}
    (sub : ∀ line ∈ lines, line ∈ contentLines content) :
    contentLines (Text.unlines lines) = lines := by
  have whole : ∀ line ∈ lines, Text.IsOneLine line := fun line member =>
    Text.isOneLine_of_mem_lines (List.mem_filter.mp (sub line member)).1
  rw [contentLines, Text.lines_unlines whole, List.filter_eq_self]
  exact fun line member => (List.mem_filter.mp (sub line member)).2

/-- Of the lines of a text, those about one model are left. -/
theorem contentLines_only (key : ModelKey) (content : String) :
    contentLines (only key content) = linesOf key content :=
  contentLines_unlines fun _ member => (List.mem_filter.mp member).1

theorem allWrittenIn_only
    {records : List Record} {content : String}
    (written : Record.AllWrittenIn records (contentLines content))
    (key : ModelKey) :
    Record.AllWrittenIn (records.filter (·.key = key)) (contentLines (only key content)) := by
  rw [contentLines_only]
  exact written.filter_key key

variable {catalog : Catalog} {content : String}

/-- A text is accepted when its lines are records and the part about each model is accepted. -/
theorem failure_read_eq_none_iff_only :
    (catalog.read content).failure = none ↔
      (∀ line ∈ contentLines content, ∃ record : Record, record.WrittenIn (trim line)) ∧
        ∀ key, (catalog.read (only key content)).failure = none := by
  have parts : ∀ records, Record.AllWrittenIn records (contentLines content) →
      ((catalog.read content).failure = none ↔
        ∀ key, (catalog.read (only key content)).failure = none) := by
    intro records written
    rw [failure_read_of_allWrittenIn written, applyRecords,
      (independent_applyRecord.each_filter catalog records).1]
    exact forall_congr' fun key =>
      (failure_read_of_allWrittenIn (allWrittenIn_only written key)).symm
  constructor
  · intro accepted
    have readable := readable_of_succeeds (failure_read_eq_none_iff.mp accepted)
    rcases Record.exists_allWrittenIn readable with ⟨records, written⟩
    exact ⟨readable, (parts records written).mp accepted⟩
  · rintro ⟨readable, accepted⟩
    rcases Record.exists_allWrittenIn readable with ⟨records, written⟩
    exact (parts records written).mpr accepted

/-- A model is read as it is from the lines about it alone. -/
theorem model?_read_only
    (accepted : (catalog.read content).failure = none)
    (key : ModelKey) :
    (catalog.read content).catalog.model? key =
      (catalog.read (only key content)).catalog.model? key := by
  have went := failure_read_eq_none_iff.mp accepted
  rcases succeeds_applyEach_iff.mp went with ⟨records, written, succeeds⟩
  have parts := independent_applyRecord.each_filter catalog records
  rw [catalog_read_of_allWrittenIn written succeeds,
    catalog_read_of_allWrittenIn (allWrittenIn_only written key) (parts.1.mp succeeds key)]
  exact congrArg Prod.snd (parts.2 succeeds key)

theorem only_congr
    {key : ModelKey} {left right : String}
    (same : linesOf key left = linesOf key right) :
    only key left = only key right := by
  rw [only, only, same]

/--
The records of different models do not touch each other.  A new catalog accepts a
description when all lines are records and it accepts the lines of every model alone,
and then it holds every model that these lines alone lead to.  So only the order of the
lines of one and the same model matters.
-/
theorem read_independent (strict : Bool) (content : String) :
    ((({ strict } : Catalog).read content).failure = none ↔
        (∀ line ∈ contentLines content, ∃ record : Record, record.WrittenIn (trim line)) ∧
          ∀ key, (({ strict } : Catalog).read (only key content)).failure = none) ∧
      ((({ strict } : Catalog).read content).failure = none → ∀ key,
        (({ strict } : Catalog).read content).catalog.model? key =
          (({ strict } : Catalog).read (only key content)).catalog.model? key) ∧
      ∀ other,
        (contentLines content).Perm (contentLines other) →
        (∀ key, linesOf key content = linesOf key other) →
          ((({ strict } : Catalog).read content).failure = none ↔
              (({ strict } : Catalog).read other).failure = none) ∧
            ((({ strict } : Catalog).read content).failure = none → ∀ key,
              (({ strict } : Catalog).read content).catalog.model? key =
                (({ strict } : Catalog).read other).catalog.model? key) := by
  refine ⟨failure_read_eq_none_iff_only, model?_read_only, ?_⟩
  intro other permuted sameOrder
  have same : ∀ key, only key content = only key other := fun key => only_congr (sameOrder key)
  have readable :
      (∀ line ∈ contentLines content, ∃ record : Record, record.WrittenIn (trim line)) ↔
        ∀ line ∈ contentLines other, ∃ record : Record, record.WrittenIn (trim line) :=
    forall_congr' fun line => imp_congr_left permuted.mem_iff
  have accepted : (({ strict } : Catalog).read content).failure = none ↔
      (({ strict } : Catalog).read other).failure = none := by
    rw [failure_read_eq_none_iff_only, failure_read_eq_none_iff_only, readable]
    simp only [same]
  refine ⟨accepted, fun went key => ?_⟩
  rw [model?_read_only went, model?_read_only (accepted.mp went), same key]

/-- An automaton and a grammar of one name, described in turn or one after the other. -/
theorem read_independent_interleaved :
    (contentLines "1:m:q\n6: m :S\n3:m:q\n8:m:S").Perm
        (contentLines "6: m :S\n8:m:S\n1:m:q\n3:m:q") ∧
      (∀ key, linesOf key "1:m:q\n6: m :S\n3:m:q\n8:m:S" =
        linesOf key "6: m :S\n8:m:S\n1:m:q\n3:m:q") ∧
      (({} : Catalog).read "6: m :S\n8:m:S\n1:m:q\n3:m:q").failure = none := by
  have turns : contentLines "1:m:q\n6: m :S\n3:m:q\n8:m:S" =
      ["1:m:q", "6: m :S", "3:m:q", "8:m:S"] := by
    decide +kernel
  have blocks : contentLines "6: m :S\n8:m:S\n1:m:q\n3:m:q" =
      ["6: m :S", "8:m:S", "1:m:q", "3:m:q"] := by
    decide +kernel
  have permuted : (contentLines "1:m:q\n6: m :S\n3:m:q\n8:m:S").Perm
      (contentLines "6: m :S\n8:m:S\n1:m:q\n3:m:q") := by
    rw [turns, blocks]
    decide
  have sameOrder : ∀ key, linesOf key "1:m:q\n6: m :S\n3:m:q\n8:m:S" =
      linesOf key "6: m :S\n8:m:S\n1:m:q\n3:m:q" := by
    intro key
    have states : Record.keyIn? "1:m:q" = some (.automaton "m") := by decide +kernel
    have initial : Record.keyIn? "3:m:q" = some (.automaton "m") := by decide +kernel
    have symbols : Record.keyIn? "6: m :S" = some (.grammar "m") := by decide +kernel
    have start : Record.keyIn? "8:m:S" = some (.grammar "m") := by decide +kernel
    simp only [linesOf, turns, blocks, List.filter_cons, states, initial, symbols, start]
    by_cases isAutomaton : ModelKey.automaton "m" = key
    · subst isAutomaton
      decide
    · simp [isAutomaton]
  have accepted : (({} : Catalog).read "1:m:q\n6: m :S\n3:m:q\n8:m:S").failure = none := by
    decide +kernel
  have independent := (read_independent false "1:m:q\n6: m :S\n3:m:q\n8:m:S").2.2
    _ permuted sameOrder
  exact ⟨permuted, sameOrder, independent.1.mp accepted⟩

end Catalog

end RegularModels
