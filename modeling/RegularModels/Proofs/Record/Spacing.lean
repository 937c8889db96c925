import RegularModels.Proofs.Record.Format
import RegularModels.Proofs.Record.Joining
import RegularModels.Proofs.Text.Spacing

/-!
# Blanks in descriptions

The contents of a field are cut at the separators of that field, and the pieces are
trimmed; a line is trimmed and cut at its colons before, and these pieces are trimmed
again.  So blanks at the ends of a line, beside its colons and beside the separators of
its field make no difference to what a reading leaves behind and where and for what
class of cause it fails; only the wording of a failure shows the line as it stands.
-/

namespace RegularModels

open Text (Beside Ignores Loose isBlank isLineBreak trim)

/-! ## Outcomes without their wording -/

/-- The model that a change leaves behind, and the class of what stopped it. -/
def Outcome.gist {σ : Type} (outcome : Outcome σ) : σ × Option ErrorKind :=
  (outcome.model, outcome.error.map ModelError.kind)

section Gist

variable {σ α β : Type}

theorem none_or_some_of_map_eq
    {read : α → β} {item other : Option α}
    (same : item.map read = other.map read) :
    (item = none ∧ other = none) ∨
      ∃ value further, item = some value ∧ other = some further ∧ read value = read further := by
  cases item with
  | none => exact .inl ⟨rfl, Option.map_eq_none_iff.mp same.symm⟩
  | some value =>
      rcases Option.map_eq_some_iff.mp same.symm with ⟨further, found, equal⟩
      exact .inr ⟨value, further, rfl, found, equal.symm⟩

/-- Outcomes of one gist both went through, or were both refused, for causes of one class. -/
theorem Outcome.of_gist_eq
    {outcome other : Outcome σ}
    (same : outcome.gist = other.gist) :
    outcome.model = other.model ∧
      ((outcome.error = none ∧ other.error = none) ∨
        ∃ cause further, outcome.error = some cause ∧ other.error = some further ∧
          cause.kind = further.kind) :=
  ⟨congrArg Prod.fst same, none_or_some_of_map_eq (congrArg Prod.snd same)⟩

theorem Outcome.gist_andThen_congr
    {outcome other : Outcome σ} {next further : σ → Outcome σ}
    (same : outcome.gist = other.gist)
    (later : ∀ model, (next model).gist = (further model).gist) :
    (outcome.andThen next).gist = (other.andThen further).gist := by
  rcases Outcome.of_gist_eq same with ⟨models, ⟨went, wentToo⟩ | ⟨cause, further, stop, stopToo, _⟩⟩
  · simp only [andThen, went, wentToo, models]
    exact later other.model
  · simp only [andThen, stop, stopToo, same]

/-- Items that a change reads alike lead to the same, one after the other. -/
theorem Outcome.gist_each_congr
    {change : σ → α → Outcome σ} {read : α → β}
    (determined : ∀ model item other, read item = read other →
      (change model item).gist = (change model other).gist)
    {items others : List α}
    (same : items.map read = others.map read)
    (model : σ) :
    (each change model items).gist = (each change model others).gist := by
  induction items generalizing others model with
  | nil =>
      rw [List.map_nil, eq_comm, List.map_eq_nil_iff] at same
      rw [same]
  | cons item rest ih =>
      rcases List.map_eq_cons_iff.mp same.symm with ⟨other, further, rfl, first, later⟩
      exact gist_andThen_congr (determined model item other first.symm) fun next =>
        ih later.symm next

end Gist

/-! ## Contents of a field -/

/-- The separators in the contents of a field. -/
def RecordField.marks : RecordField → List (List Char)
  | .automaton .states | .automaton .alphabet | .automaton .finals => [[',']]
  | .automaton .transitions => [[';'], [',']]
  | .grammar .nonTerminals | .grammar .terminals => [[',']]
  | .grammar .productions => [[';'], ['-', '>']]
  | .automaton .initial | .grammar .start => []

theorem Transition.ignores_ofText? : Ignores [[',']] Transition.ofText? :=
  (Text.ignores_pieces rfl).of_determined fun text other same => by
    rw [Transition.ofText?, same, Transition.ofText?]

theorem Production.ofText?_eq (piece : String) :
    Production.ofText? piece =
      match (Text.splitAtText "->" piece).map trim with
      | [lhs, rhs] => some ⟨lhs, rhs⟩
      | _ => none := by
  rw [Production.ofText?]
  rcases Text.splitAtText "->" piece with _ | ⟨lhs, _ | ⟨rhs, _ | ⟨third, rest⟩⟩⟩ <;> rfl

theorem isMark_arrow : Text.IsMark ['-', '>'] where
  ne_nil := by simp
  solid := by simp [isBlank]
  unbordered := by decide

/-- Reading a production does not see the blanks around its sides. -/
theorem Production.ignores_ofText? : Ignores [['-', '>']] Production.ofText? := by
  have cut : Ignores [['-', '>']] fun piece => (Text.splitAtText "->" piece).map trim :=
    Text.ignores_trim.map_splitAtText "->" isMark_arrow (by simp [Text.SharesNothing])
  exact cut.of_determined fun piece other same => by
    simp only [Production.ofText?_eq, same]

theorem Automaton.gist_addPiece_congr
    (automaton : Automaton)
    {piece other : String}
    (same : Transition.ofText? piece = Transition.ofText? other) :
    (automaton.addPiece piece).gist = (automaton.addPiece other).gist := by
  rw [addPiece, addPiece, same]
  cases Transition.ofText? other <;> rfl

theorem Grammar.gist_addPiece_congr
    (grammar : Grammar)
    {piece other : String}
    (same : Production.ofText? piece = Production.ofText? other) :
    (grammar.addPiece piece).gist = (grammar.addPiece other).gist := by
  rw [addPiece, addPiece, same]
  cases Production.ofText? other <;> rfl

/-- Setting a field of an automaton does not see the blanks around its names. -/
theorem Automaton.ignores_setField (automaton : Automaton) (field : AutomatonField) :
    Ignores (RecordField.automaton field).marks fun payload =>
      (automaton.setField field payload).gist := by
  have names : Ignores [[',']] (Text.pieces ',') := Text.ignores_pieces rfl
  cases field with
  | states => exact names.comp fun states => (Outcome.done (automaton.setStates states)).gist
  | alphabet => exact names.comp fun symbols => (Outcome.done (automaton.setAlphabet symbols)).gist
  | initial =>
      exact Text.ignores_trim.of_determined fun name other same => by
        simp only [setField, setInitial, same]
  | finals => exact names.comp fun states => (automaton.setFinals states).gist
  | transitions =>
      have pieces := Transition.ignores_ofText?.map_splitAtChar ';' rfl
        (by simp [Text.SharesNothing])
      exact pieces.of_determined fun text other same =>
        Outcome.gist_each_congr (fun reached _ _ => reached.gist_addPiece_congr) same automaton

/-- Setting a field of a grammar does not see the blanks around its names. -/
theorem Grammar.ignores_setField (grammar : Grammar) (field : GrammarField) :
    Ignores (RecordField.grammar field).marks fun payload =>
      (grammar.setField field payload).gist := by
  have names : Ignores [[',']] (Text.pieces ',') := Text.ignores_pieces rfl
  cases field with
  | nonTerminals =>
      exact names.comp fun symbols => (Outcome.done (grammar.setNonTerminals symbols)).gist
  | terminals =>
      exact names.comp fun symbols => (Outcome.done (grammar.setTerminals symbols)).gist
  | start =>
      exact Text.ignores_trim.of_determined fun symbol other same => by
        simp only [setField, setStart, same]
  | productions =>
      have pieces := Production.ignores_ofText?.map_splitAtChar ';' rfl
        (by simp [Text.SharesNothing])
      exact pieces.of_determined fun text other same =>
        Outcome.gist_each_congr (fun reached _ _ => reached.gist_addPiece_congr) same grammar

namespace Catalog

theorem ignores_applyRecord (catalog : Catalog) (field : RecordField) (name : String) :
    Ignores field.marks fun payload => (catalog.applyRecord ⟨field, name, payload⟩).gist := by
  cases field with
  | automaton field =>
      exact ((catalog.automaton name).ignores_setField field).comp fun gist =>
        (catalog.putAutomaton name gist.1, gist.2)
  | grammar field =>
      exact ((catalog.grammar name).ignores_setField field).comp fun gist =>
        (catalog.putGrammar name gist.1, gist.2)

/-! ## Lines -/

/-- What a line does to a catalog, but for the wording of a refusal, depends on its pieces. -/
theorem gist_applyLine (catalog : Catalog) (line : String) :
    (catalog.applyLine line).gist =
      match Text.pieces ':' line with
      | [code, name, payload] =>
        match (Text.integer? code).bind RecordField.ofCode? with
        | some field => (catalog.applyRecord ⟨field, name, payload⟩).gist
        | none => (catalog, some .format)
      | _ => (catalog, some .format) := by
  rw [applyLine, Record.ofLine]
  rcases Text.pieces ':' line with _ | ⟨code, _ | ⟨name, _ | ⟨payload, _ | ⟨fourth, rest⟩⟩⟩⟩
  case cons.cons.cons.nil =>
    dsimp only
    cases Text.integer? code with
    | none => rfl
    | some number =>
        rw [Option.bind_some]
        cases known : RecordField.ofCode? number with
        | none => simp only [known]; rfl
        | some field => simp only [known]
  all_goals rfl

/-- Applying a line does not see the blanks around its three parts. -/
theorem ignores_applyLine (catalog : Catalog) :
    Ignores [[':']] fun line => (catalog.applyLine line).gist :=
  (Text.ignores_pieces rfl).of_determined fun line other same => by
    rw [gist_applyLine, same, gist_applyLine]

/-- A line that does not have two colons is no record. -/
theorem gist_applyLine_of_count
    (catalog : Catalog)
    {line : List Char}
    (unreadable : line.count ':' ≠ 2) :
    (catalog.applyLine (String.ofList line)).gist = (catalog, some .format) := by
  have pieces : (Text.pieces ':' (String.ofList line)).length = line.count ':' + 1 := by
    rw [Text.pieces, List.length_map, Text.splitAtChar, List.length_map, String.toList_ofList,
      Text.length_splitWhere]
  rw [gist_applyLine]
  split
  · rename_i shape
    rw [shape] at pieces
    exact absurd (Nat.succ.inj pieces).symm unreadable
  · rfl

end Catalog

/-- The texts, without colons, stand for the field and for a name at the front of a line. -/
structure Record.IsHead (field : RecordField) (code name : List Char) : Prop where
  unmarkedCode : ':' ∉ code
  unmarkedName : ':' ∉ name
  literal : Text.integer? (trim (String.ofList code)) = some field.code

/--
A place in a line where blanks make no difference: an end of the line, beside a colon,
beside a separator of the field whose code the line begins with, in the contents of that
field, and every place when the line is no record for its number of colons.
-/
inductive Record.Gap (left right : List Char) : Prop where
  | colon : Loose [[':']] left right → Record.Gap left right
  | contents {field : RecordField} {code name before mark : List Char} :
      Record.IsHead field code name →
      left = code ++ ':' :: name ++ ':' :: before →
      mark ∈ field.marks →
      Beside mark before right →
      Record.Gap left right
  | unreadable : (left ++ right).count ':' ≠ 2 → Record.Gap left right

namespace Catalog

theorem gist_applyLine_trim (catalog : Catalog) (line : String) :
    (catalog.applyLine (trim line)).gist = (catalog.applyLine line).gist :=
  catalog.ignores_applyLine.trim line

theorem gist_applyLine_of_isHead
    (catalog : Catalog)
    {field : RecordField} {code name contents : List Char}
    (head : Record.IsHead field code name)
    (unmarked : contents.count ':' = 0) :
    (catalog.applyLine (String.ofList (code ++ ':' :: name ++ ':' :: contents))).gist =
      (catalog.applyRecord ⟨field, trim (String.ofList name), String.ofList contents⟩).gist := by
  have written :
      (⟨field, trim (String.ofList name), trim (String.ofList contents)⟩ : Record).WrittenIn
        (String.ofList (code ++ ':' :: name ++ ':' :: contents)) := by
    refine ⟨String.ofList code, String.ofList name, String.ofList contents, ?_, ?_,
      head.literal, rfl, rfl⟩
    · rw [← String.toList_inj]
      simp
    · simpa using ⟨head.unmarkedCode, head.unmarkedName, List.count_eq_zero.mp unmarked⟩
  rw [applyLine_of_writtenIn written]
  exact (catalog.ignores_applyRecord field (trim (String.ofList name))).trim _

/-- Blanks in a gap make no difference to what a line does. -/
theorem gist_applyLine_insert
    (catalog : Catalog)
    {left blanks right : List Char}
    (blank : ∀ char ∈ blanks, isBlank char = true)
    (gap : Record.Gap left right) :
    (catalog.applyLine (String.ofList (left ++ blanks ++ right))).gist =
      (catalog.applyLine (String.ofList (left ++ right))).gist := by
  have colons : (left ++ blanks ++ right).count ':' = (left ++ right).count ':' :=
    Text.count_insert blank rfl
  by_cases readable : (left ++ right).count ':' = 2
  · cases gap with
    | colon loose => exact catalog.ignores_applyLine left blanks right blank loose
    | unreadable counted => exact absurd readable counted
    | @contents field code name before mark head cut member beside =>
        subst cut
        have unmarked : (before ++ right).count ':' = 0 := by
          simp only [List.append_assoc, List.cons_append, List.count_append,
            List.count_cons_self] at readable ⊢
          omega
        have wide := catalog.gist_applyLine_of_isHead head
          ((Text.count_insert blank rfl).trans unmarked)
        have narrow := catalog.gist_applyLine_of_isHead head unmarked
        have same := catalog.ignores_applyRecord field (trim (String.ofList name))
          before blanks right blank (.beside mark member beside)
        simp only [List.append_assoc, List.cons_append] at wide narrow same ⊢
        rw [wide, narrow, same]
  · rw [catalog.gist_applyLine_of_count readable,
      catalog.gist_applyLine_of_count (colons ▸ readable)]

end Catalog

/-! ## Readings -/

/-- The number of a line that was refused, and the class of what was wrong with it. -/
def LineFailure.gist (failure : LineFailure) : Nat × ErrorKind :=
  (failure.lineNumber, failure.cause.kind)

/--
Both readings went through and left the same models in the same order, or both failed, at
lines of the same number and for causes of the same class.
-/
structure Reading.EndsLike (reading other : Reading) : Prop where
  catalog : reading.catalog = other.catalog
  failure : reading.failure.map LineFailure.gist = other.failure.map LineFailure.gist

theorem Reading.EndsLike.refl (reading : Reading) : reading.EndsLike reading :=
  ⟨rfl, rfl⟩

theorem Reading.EndsLike.trans
    {reading other further : Reading}
    (first : reading.EndsLike other)
    (second : other.EndsLike further) :
    reading.EndsLike further :=
  ⟨first.catalog.trans second.catalog, first.failure.trans second.failure⟩

theorem Reading.EndsLike.withEvents
    {reading other : Reading}
    (same : reading.EndsLike other)
    (events otherEvents : List Event) :
    { reading with events := events }.EndsLike { other with events := otherEvents } :=
  ⟨same.catalog, same.failure⟩

namespace Catalog

/-- Two lines do the same to every catalog, but for the wording of a refusal. -/
def Alike (line other : String) : Prop :=
  ∀ catalog : Catalog, (catalog.applyLine (trim line)).gist = (catalog.applyLine (trim other)).gist

/-- One line of several may be replaced by one that does the same. -/
theorem endsLike_applyLines
    {line other : String}
    (alike : Alike line other)
    (catalog : Catalog) (number : Nat) (before behind : List String) :
    (catalog.applyLines number (before ++ line :: behind)).EndsLike
      (catalog.applyLines number (before ++ other :: behind)) := by
  induction before generalizing catalog number with
  | nil =>
      simp only [List.nil_append, applyLines]
      rcases Outcome.of_gist_eq (alike catalog) with
        ⟨models, ⟨went, wentToo⟩ | ⟨cause, further, stop, stopToo, kinds⟩⟩
      · simp only [went, wentToo, models]
        exact (Reading.EndsLike.refl _).withEvents _ _
      · simp only [stop, stopToo, models]
        have place : LineFailure.gist ⟨number, line, cause⟩ =
            LineFailure.gist ⟨number, other, further⟩ :=
          congrArg (Prod.mk number) kinds
        exact ⟨rfl, congrArg some place⟩
  | cons first before ih =>
      simp only [List.cons_append, applyLines]
      cases (catalog.applyLine (trim first)).error with
      | some cause => exact .refl _
      | none =>
          exact (ih (catalog.applyLine (trim first)).model (number + 1)).withEvents _ _

theorem endsLike_read
    {content other : String}
    {catalog : Catalog}
    (lines : (catalog.applyLines 1 (contentLines content)).EndsLike
      (catalog.applyLines 1 (contentLines other))) :
    (catalog.read content).EndsLike (catalog.read other) := by
  refine ⟨?_, by rw [failure_read, failure_read, lines.failure]⟩
  simp only [read]
  rcases none_or_some_of_map_eq lines.failure with
    ⟨went, wentToo⟩ | ⟨failure, further, stop, stopToo, _⟩
  · simp only [went, wentToo]
    exact lines.catalog
  · simp only [stop, stopToo]

/-! ## Whole descriptions -/

/--
One description is the other with blanks put into gaps of its lines, one after the other;
none of the blanks is a line break.
-/
inductive Spaced (content : String) : String → Prop where
  | refl : Spaced content content
  | insert {earlier left blanks right later : List Char} :
      Spaced content (String.ofList (earlier ++ (left ++ right) ++ later)) →
      Text.IsLineBetween earlier (left ++ right) later →
      Record.Gap left right →
      (∀ char ∈ blanks, isBlank char = true ∧ isLineBreak char = false) →
      Spaced content (String.ofList (earlier ++ (left ++ blanks ++ right) ++ later))

theorem isContent_insert
    {left blanks right : List Char}
    (blank : ∀ char ∈ blanks, isBlank char = true) :
    isContent (left ++ blanks ++ right) = isContent (left ++ right) := by
  have same : Text.IsBlankText (String.ofList (left ++ blanks ++ right)) ↔
      Text.IsBlankText (String.ofList (left ++ right)) := by
    simp only [Text.isBlankText_iff, String.toList_ofList, List.forall_mem_append]
    exact ⟨fun ⟨⟨front, _⟩, back⟩ => ⟨front, back⟩, fun ⟨front, back⟩ => ⟨⟨front, blank⟩, back⟩⟩
  simp only [isContent, same]

/-- What is read of a line among others depends on what it does, if it counts. -/
theorem endsLike_read_of_alike
    {earlier line other later : List Char}
    (between : Text.IsLineBetween earlier line later)
    (solid : ∀ char ∈ other, isLineBreak char = false)
    (counts : isContent line = isContent other)
    (alike : Alike (String.ofList line) (String.ofList other))
    (catalog : Catalog) :
    (catalog.read (String.ofList (earlier ++ line ++ later))).EndsLike
      (catalog.read (String.ofList (earlier ++ other ++ later))) := by
  rcases Text.exists_pieces_around between.before between.behind with ⟨front, back, cut⟩
  apply endsLike_read
  simp only [contentLines_eq, String.toList_ofList, Text.filter_splitLines isContent_nil,
    cut line between.solid, cut other solid, List.filter_append, List.filter_cons, counts]
  split
  · simp only [List.map_append, List.map_cons]
    exact endsLike_applyLines alike catalog 1 _ _
  · exact .refl _

/--
Blanks at the ends of lines, beside colons and beside the separators of the field that a
line sets make no difference to a reading: it goes through for both descriptions and
leaves the same models in the same order, or fails for both at the same line number and
for causes of the same class.
-/
theorem read_spaced
    {content other : String}
    (spaced : Spaced content other)
    (catalog : Catalog) :
    (catalog.read content).EndsLike (catalog.read other) := by
  induction spaced with
  | refl => exact .refl _
  | @insert earlier left blanks right later _ between gap blank ih =>
      have blankOnly : ∀ char ∈ blanks, isBlank char = true := fun char member =>
        (blank char member).1
      have solid : ∀ char ∈ left ++ blanks ++ right, isLineBreak char = false := by
        intro char member
        simp only [List.mem_append] at member
        rcases member with (inLeft | inBlanks) | inRight
        · exact between.solid char (List.mem_append_left right inLeft)
        · exact (blank char inBlanks).2
        · exact between.solid char (List.mem_append_right left inRight)
      have alike :
          Alike (String.ofList (left ++ right)) (String.ofList (left ++ blanks ++ right)) := by
        intro reached
        rw [gist_applyLine_trim, gist_applyLine_trim, reached.gist_applyLine_insert blankOnly gap]
      exact ih.trans
        (endsLike_read_of_alike between solid (isContent_insert blankOnly).symm alike catalog)

/-- A blank before a comma of the states, and others at the end of the line of a transition. -/
theorem read_spaced_undeclared :
    Spaced "1:m:p,q\n5:m:p,a,q" "1:m:p ,q\n5:m:p,a,q\x1f\t" ∧
      (({} : Catalog).read "1:m:p,q\n5:m:p,a,q").EndsLike
        (({} : Catalog).read "1:m:p ,q\n5:m:p,a,q\x1f\t") ∧
      (({} : Catalog).read "1:m:p ,q\n5:m:p,a,q\x1f\t").failure =
        some ⟨2, "5:m:p,a,q\x1f\t", .unknownSymbol "a"⟩ := by
  have start : String.ofList ([] ++ ("1:m:p".toList ++ ",q".toList) ++ "\n5:m:p,a,q".toList) =
      "1:m:p,q\n5:m:p,a,q" := by
    decide +kernel
  have middle : String.ofList
        ([] ++ ("1:m:p".toList ++ [' '] ++ ",q".toList) ++ "\n5:m:p,a,q".toList) =
      String.ofList ("1:m:p ,q\n".toList ++ ("5:m:p,a,q".toList ++ []) ++ []) := by
    decide +kernel
  have finish : String.ofList
        ("1:m:p ,q\n".toList ++ ("5:m:p,a,q".toList ++ ['\x1f', '\t'] ++ []) ++ []) =
      "1:m:p ,q\n5:m:p,a,q\x1f\t" := by
    decide +kernel
  have spaced : Spaced "1:m:p,q\n5:m:p,a,q" "1:m:p ,q\n5:m:p,a,q\x1f\t" := by
    rw [← start, ← finish]
    refine .insert (middle ▸ .insert .refl ⟨?_, ?_, ?_⟩ ?_ ?_) ⟨?_, ?_, ?_⟩
      (.colon (.finish rfl)) ?_
    case refine_4 =>
      have head : Record.IsHead (.automaton .states) ['1'] ['m'] :=
        ⟨by decide, by decide, by decide⟩
      have cut : "1:m:p".toList = ['1'] ++ ':' :: ['m'] ++ ':' :: ['p'] := by decide
      exact .contents head cut List.mem_cons_self (.inr (by decide))
    all_goals simp [isLineBreak, isBlank]
  exact ⟨spaced, read_spaced spaced {}, by decide +kernel⟩

end Catalog

end RegularModels
