import RegularModels.Proofs.Entries
import RegularModels.Proofs.Record.Contents
import RegularModels.Proofs.Record.Format

/-!
# Descriptions

A description is accepted when its lines are records that fit together: each refers to
names that the records before it put in place.  The catalog then holds the models that
occur in it, in the order in which they occur first, and every one of them is what the
contents of its own records say.
-/

namespace RegularModels

namespace Record

/-! ## What records say about a model -/

/-- The contents that records give to a field of the model of a name, in order. -/
def contentsOf (records : List Record) (name : String) (field : RecordField) : List String :=
  (records.filter fun record => record.name = name ∧ record.field = field).map (·.payload)

/-- The names of the automata that records belong to, in order. -/
def automatonNames (records : List Record) : List String :=
  records.filterMap fun record =>
    match record.field with
    | .automaton _ => some record.name
    | .grammar _ => none

/-- The names in records about grammars, with repetitions. -/
def grammarNames (records : List Record) : List String :=
  records.filterMap fun record =>
    match record.field with
    | .automaton _ => none
    | .grammar _ => some record.name

/-- The record refers to names that earlier records of its model put in place. -/
def FitsAfter (earlier : List Record) (record : Record) : Prop :=
  match record.field with
  | .automaton field =>
      field.Fits (contentsOf earlier record.name ∘ RecordField.automaton) record.payload
  | .grammar field =>
      field.Fits (contentsOf earlier record.name ∘ RecordField.grammar) record.payload

/-- Each record fits after those before it. -/
def FitTogether (records : List Record) : Prop :=
  InTurn FitsAfter records

variable {records : List Record} {name : String}

theorem contentsOf_concat_of_ne
    {record : Record} {field : RecordField}
    (different : ¬(record.name = name ∧ record.field = field)) :
    contentsOf (records ++ [record]) name field = contentsOf records name field := by
  simp [contentsOf, different]

theorem contentsOf_concat_of_name_ne
    {record : Record}
    (different : record.name ≠ name) :
    contentsOf (records ++ [record]) name = contentsOf records name :=
  funext fun _ => contentsOf_concat_of_ne fun same => different same.1

theorem contentsOf_concat_of_field_ne
    {κ : Type} {family : κ → RecordField} {record : Record}
    (different : ∀ field, record.field ≠ family field) :
    contentsOf (records ++ [record]) name ∘ family = contentsOf records name ∘ family :=
  funext fun field => contentsOf_concat_of_ne fun same => different field same.2

/-- A further record adds its contents to those of its field. -/
theorem contentsOf_comp_concat
    {κ : Type} [DecidableEq κ] {family : κ → RecordField}
    (injective : Function.Injective family)
    (records : List Record) (field : κ) (name text : String) :
    contentsOf (records ++ [⟨family field, name, text⟩]) name ∘ family =
      addContents (contentsOf records name ∘ family) field text := by
  funext other
  by_cases same : other = field
  · subst same
    rw [addContents_self]
    simp [contentsOf]
  · rw [addContents_of_ne same]
    apply contentsOf_concat_of_ne
    rintro ⟨_, families⟩
    exact same (injective families).symm

theorem contentsOf_automaton_of_not_mem
    (absent : name ∉ automatonNames records) (field : AutomatonField) :
    contentsOf records name (.automaton field) = [] := by
  rw [contentsOf, List.map_eq_nil_iff, List.filter_eq_nil_iff]
  intro record member found
  apply absent
  rw [decide_eq_true_eq] at found
  exact List.mem_filterMap.mpr ⟨record, member, by rw [found.2, found.1]⟩

theorem contentsOf_grammar_of_not_mem
    (absent : name ∉ grammarNames records) (field : GrammarField) :
    contentsOf records name (.grammar field) = [] := by
  rw [contentsOf, List.map_eq_nil_iff, List.filter_eq_nil_iff]
  intro record member found
  apply absent
  rw [decide_eq_true_eq] at found
  exact List.mem_filterMap.mpr ⟨record, member, by rw [found.2, found.1]⟩

end Record

/-! ## New models -/

theorem Automaton.describedBy_new
    {name : String} {contents : AutomatonField → List String}
    (empty : ∀ field, contents field = []) :
    ({ name } : Automaton).DescribedBy name contents := by
  rw [funext empty]
  exact ⟨rfl, rfl, rfl, rfl, rfl, rfl, fun _ _ => rfl, rfl⟩

theorem Grammar.describedBy_new
    {name : String} {contents : GrammarField → List String}
    (empty : ∀ field, contents field = []) :
    ({ name } : Grammar).DescribedBy name contents := by
  rw [funext empty]
  exact ⟨rfl, rfl, rfl, rfl, fun _ => rfl, rfl⟩

namespace Catalog

open Record (contentsOf automatonNames grammarNames FitTogether)

/-- The catalog holds the models that occur in the records, each as the records say. -/
structure DescribedBy (catalog : Catalog) (records : List Record) : Prop where
  lenient : catalog.strict = false
  automata : catalog.automata.keys = firstAppearances (automatonNames records)
  grammars : catalog.grammars.keys = firstAppearances (grammarNames records)
  automaton : ∀ name automaton, catalog.automata.get? name = some automaton →
    automaton.DescribedBy name (contentsOf records name ∘ RecordField.automaton)
  grammar : ∀ name grammar, catalog.grammars.get? name = some grammar →
    grammar.DescribedBy name (contentsOf records name ∘ RecordField.grammar)

namespace DescribedBy

variable {catalog : Catalog} {records : List Record}
  (described : catalog.DescribedBy records)
include described

/-- The automaton of a name is as described, also when it is a new one. -/
theorem automaton_or_new (name : String) :
    (catalog.automaton name).DescribedBy name
      (contentsOf records name ∘ RecordField.automaton) := by
  unfold Catalog.automaton
  cases found : catalog.automata.get? name with
  | some automaton => exact described.automaton name automaton found
  | none =>
      -- No record names the automaton, so there are no contents for any of its fields.
      rw [described.lenient]
      apply Automaton.describedBy_new
      apply Record.contentsOf_automaton_of_not_mem
      rw [← mem_firstAppearances, ← described.automata]
      exact Table.get?_eq_none_iff.mp found

theorem grammar_or_new (name : String) :
    (catalog.grammar name).DescribedBy name
      (contentsOf records name ∘ RecordField.grammar) := by
  unfold Catalog.grammar
  cases found : catalog.grammars.get? name with
  | some grammar => exact described.grammar name grammar found
  | none =>
      apply Grammar.describedBy_new
      apply Record.contentsOf_grammar_of_not_mem
      rw [← mem_firstAppearances, ← described.grammars]
      exact Table.get?_eq_none_iff.mp found

theorem putAutomaton
    {field : AutomatonField} {name text : String} {automaton : Automaton}
    (filled : automaton.DescribedBy name
      (addContents (contentsOf records name ∘ RecordField.automaton) field text)) :
    (catalog.putAutomaton name automaton).DescribedBy
      (records ++ [⟨.automaton field, name, text⟩]) where
  lenient := described.lenient
  automata := by
    rw [automatonNames, List.filterMap_append]
    exact Table.keys_insert_eq_firstAppearances described.automata name automaton
  grammars := by
    rw [grammarNames, List.filterMap_append]
    exact described.grammars.trans (congrArg firstAppearances (List.append_nil _).symm)
  automaton := by
    intro other found present
    rcases Table.get?_insert_eq_some_iff.mp present with ⟨rfl, rfl⟩ | ⟨different, stored⟩
    · rw [Record.contentsOf_comp_concat fun _ _ => RecordField.automaton.inj]
      exact filled
    · rw [Record.contentsOf_concat_of_name_ne (Ne.symm different)]
      exact described.automaton other found stored
  grammar := by
    intro other found stored
    rw [Record.contentsOf_concat_of_field_ne fun _ => RecordField.noConfusion]
    exact described.grammar other found stored

theorem putGrammar
    {field : GrammarField} {name text : String} {grammar : Grammar}
    (filled : grammar.DescribedBy name
      (addContents (contentsOf records name ∘ RecordField.grammar) field text)) :
    (catalog.putGrammar name grammar).DescribedBy
      (records ++ [⟨.grammar field, name, text⟩]) where
  lenient := described.lenient
  automata := by
    rw [automatonNames, List.filterMap_append]
    exact described.automata.trans (congrArg firstAppearances (List.append_nil _).symm)
  grammars := by
    rw [grammarNames, List.filterMap_append]
    exact Table.keys_insert_eq_firstAppearances described.grammars name grammar
  automaton := by
    intro other found stored
    rw [Record.contentsOf_concat_of_field_ne fun _ => RecordField.noConfusion]
    exact described.automaton other found stored
  grammar := by
    intro other found present
    rcases Table.get?_insert_eq_some_iff.mp present with ⟨rfl, rfl⟩ | ⟨different, stored⟩
    · rw [Record.contentsOf_comp_concat fun _ _ => RecordField.grammar.inj]
      exact filled
    · rw [Record.contentsOf_concat_of_name_ne (Ne.symm different)]
      exact described.grammar other found stored

/-- One more record is accepted when it fits, and adds to the description of its model. -/
theorem guarded_applyRecord (record : Record) :
    (catalog.applyRecord record).Guarded (record.FitsAfter records)
      (·.DescribedBy (records ++ [record])) := by
  rcases record with ⟨field, name, text⟩
  cases field with
  | automaton field =>
      exact ((described.automaton_or_new name).setField field text).map
        fun _ filled => described.putAutomaton filled
  | grammar field =>
      exact ((described.grammar_or_new name).setField field text).map
        fun _ filled => described.putGrammar filled

end DescribedBy

theorem describedBy_nil : ({} : Catalog).DescribedBy [] where
  lenient := rfl
  automata := rfl
  grammars := rfl
  automaton := fun _ _ found => by cases found
  grammar := fun _ _ found => by cases found

/-- Records are accepted exactly when they fit together, and then describe what was made. -/
theorem guarded_applyRecords (records : List Record) :
    (({} : Catalog).applyRecords records).Guarded (FitTogether records)
      (·.DescribedBy records) :=
  Outcome.guarded_each
    (fun (records : List Record) (catalog : Catalog) => catalog.DescribedBy records)
    (fun _ _ record described => described.guarded_applyRecord record) describedBy_nil records

/--
A new catalog accepts a description when its lines that are not blank are records, each
of which refers to names that the records before it put in place.  It then holds the
models that occur, and every one of them is what its records say.
-/
theorem read_described (content : String) :
    ((({} : Catalog).read content).failure = none ↔
        ∃ records, Record.AllWrittenIn records (contentLines content) ∧ FitTogether records) ∧
      ∀ records, Record.AllWrittenIn records (contentLines content) → FitTogether records →
        (({} : Catalog).read content).catalog.DescribedBy records := by
  constructor
  · rw [failure_read_eq_none_iff, succeeds_applyEach_iff]
    exact exists_congr fun records => and_congr_right fun _ =>
      (guarded_applyRecords records).succeeds
  · intro records written fits
    have guarded := guarded_applyRecords records
    rw [catalog_read_of_allWrittenIn written (guarded.succeeds.mpr fits)]
    exact guarded.model fits

/-- States that are declared anew leave the initial state among the old ones in place. -/
theorem read_described_redeclared :
    (({} : Catalog).read "1:m:p,\n3: m :p\n\n1:m: q ").failure = none ∧
      (({} : Catalog).read "1:m:p,\n3: m :p\n\n1:m: q ").catalog.DescribedBy
        [⟨.automaton .states, "m", "p,"⟩, ⟨.automaton .initial, "m", "p"⟩,
          ⟨.automaton .states, "m", "q"⟩] := by
  have lines : contentLines "1:m:p,\n3: m :p\n\n1:m: q " = ["1:m:p,", "3: m :p", "1:m: q "] := by
    decide +kernel
  have written : Record.AllWrittenIn
      [⟨.automaton .states, "m", "p,"⟩, ⟨.automaton .initial, "m", "p"⟩,
        ⟨.automaton .states, "m", "q"⟩]
      (contentLines "1:m:p,\n3: m :p\n\n1:m: q ") := by
    rw [lines]
    exact .cons (Record.ofLine_eq_ok_iff.mp (by decide +kernel))
      (.cons (Record.ofLine_eq_ok_iff.mp (by decide +kernel))
        (.cons (Record.ofLine_eq_ok_iff.mp (by decide +kernel)) .nil))
  have declared : FitTogether [⟨.automaton .states, "m", "p,"⟩] :=
    inTurn_concat_iff.mpr ⟨inTurn_nil, trivial⟩
  have chosen : Text.trim "p" ∈ latestNames ["p,"] := by
    decide +kernel
  have started : FitTogether
      ([⟨.automaton .states, "m", "p,"⟩] ++ [⟨.automaton .initial, "m", "p"⟩]) :=
    inTurn_concat_iff.mpr ⟨declared, chosen⟩
  have fits : FitTogether
      ([⟨.automaton .states, "m", "p,"⟩, ⟨.automaton .initial, "m", "p"⟩] ++
        [⟨.automaton .states, "m", "q"⟩]) :=
    inTurn_concat_iff.mpr ⟨started, trivial⟩
  have described := read_described "1:m:p,\n3: m :p\n\n1:m: q "
  exact ⟨described.1.mpr ⟨_, written, fits⟩, described.2 _ written fits⟩

end Catalog

end RegularModels
