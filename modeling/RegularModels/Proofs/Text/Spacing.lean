import Mathlib.Data.List.Basic
import RegularModels.Proofs.Text.Breaks

/-!
# Blanks that make no difference

Texts are read by cutting them at marks and trimming the pieces, perhaps after cutting
these at other marks.  Blanks that are inserted at an end of the text, or right before or
behind one of the marks, then only make a piece longer at one of its ends, and trimming
removes them again.  `Ignores` says this of a function of texts, and it is kept by cutting
at one more mark.
-/

namespace RegularModels.Text

/-! ## Places in a text -/

/-- The mark ends right before the place between two parts, or begins right behind it. -/
def Beside (mark left right : List Char) : Prop :=
  mark <:+ left ∨ mark <+: right

instance (mark left right : List Char) : Decidable (Beside mark left right) :=
  inferInstanceAs (Decidable (mark <:+ left ∨ mark <+: right))

/-- The place between two parts is an end of the whole or beside one of the marks. -/
inductive Loose (marks : List (List Char)) (left right : List Char) : Prop where
  | start : left = [] → Loose marks left right
  | finish : right = [] → Loose marks left right
  | beside (mark : List Char) : mark ∈ marks → Beside mark left right → Loose marks left right

/-- Blanks at loose places of a text make no difference. -/
def Ignores {β : Type} (marks : List (List Char)) (read : String → β) : Prop :=
  ∀ left blanks right : List Char, (∀ char ∈ blanks, isBlank char = true) →
    Loose marks left right →
      read (String.ofList (left ++ blanks ++ right)) = read (String.ofList (left ++ right))

section Ignores

variable {β γ : Type} {marks : List (List Char)} {read : String → β}

/-- What is determined by such a function is one, too. -/
theorem Ignores.of_determined
    {other : String → γ}
    (ignores : Ignores marks read)
    (determined : ∀ text further, read text = read further → other text = other further) :
    Ignores marks other :=
  fun left blanks right blank loose => determined _ _ (ignores left blanks right blank loose)

theorem Ignores.comp
    (ignores : Ignores marks read)
    (further : β → γ) :
    Ignores marks fun text => further (read text) :=
  ignores.of_determined fun _ _ => congrArg further

/-! ## Trimming -/

theorem exists_blanks_trimStart (chars : List Char) :
    ∃ blanks, (∀ char ∈ blanks, isBlank char = true) ∧ chars = blanks ++ trimStart chars :=
  ⟨chars.takeWhile isBlank, fun _ => List.mem_takeWhile_imp,
    List.takeWhile_append_dropWhile.symm⟩

/-- A text is what trimming leaves of it, between blanks. -/
theorem exists_blanks_trim (text : String) :
    ∃ front back : List Char,
      (∀ char ∈ front, isBlank char = true) ∧ (∀ char ∈ back, isBlank char = true) ∧
        text.toList = front ++ (trim text).toList ++ back := by
  rcases exists_blanks_trimStart text.toList with ⟨front, frontBlank, frontCut⟩
  rcases exists_blanks_trimStart (trimStart text.toList).reverse with ⟨back, backBlank, backCut⟩
  refine ⟨front, back.reverse, frontBlank, by simpa using backBlank, ?_⟩
  have rest : trimStart text.toList = trimEnd (trimStart text.toList) ++ back.reverse := by
    rw [trimEnd, ← List.reverse_append, ← backCut, List.reverse_reverse]
  rw [trim, String.toList_ofList, List.append_assoc, ← rest, ← frontCut]

/-- What ignores blanks at the ends of a text reads the trimmed text like the whole. -/
theorem Ignores.trim (ignores : Ignores marks read) (text : String) :
    read (trim text) = read text := by
  rcases exists_blanks_trim text with ⟨front, back, frontBlank, backBlank, cut⟩
  have behind := ignores (front ++ (Text.trim text).toList) back [] backBlank (.finish rfl)
  have before := ignores [] front (Text.trim text).toList frontBlank (.start rfl)
  simp only [List.append_nil, List.nil_append, String.ofList_toList, ← cut] at behind before
  exact (behind.trans before).symm

theorem trimStart_append
    {blanks : List Char}
    (blank : ∀ char ∈ blanks, isBlank char = true)
    (rest : List Char) :
    trimStart (blanks ++ rest) = trimStart rest :=
  List.dropWhile_append_of_pos blank

theorem trimEnd_append
    {blanks : List Char}
    (blank : ∀ char ∈ blanks, isBlank char = true)
    (rest : List Char) :
    trimEnd (rest ++ blanks) = trimEnd rest := by
  rw [trimEnd, List.reverse_append, trimStart_append (by simpa using blank), trimEnd]

theorem ignores_trim : Ignores [] Text.trim := by
  intro left blanks right blank loose
  simp only [Text.trim, String.toList_ofList]
  cases loose with
  | start none => rw [none, List.nil_append, trimStart_append blank, List.nil_append]
  | finish none =>
      rw [none, List.append_nil, List.append_nil]
      congr 1
      -- Blanks behind nothing but blanks go with them, and otherwise they stay at the end.
      rw [trimStart, List.dropWhile_append]
      split
      · rename_i onlyBlanks
        have nothing : trimStart left = [] := List.isEmpty_iff.mp onlyBlanks
        rw [← trimStart, trimStart_eq_nil_iff.mpr blank, nothing]
      · exact trimEnd_append blank _
  | beside mark member => exact absurd member List.not_mem_nil

end Ignores

/-! ## Occurrences across a place -/

section Straddles

variable {α : Type} {mark left right : List α}

/-- An occurrence of the mark lies across the place between two parts. -/
def Straddles (mark left right : List α) : Prop :=
  ∃ front back, front ≠ [] ∧ back ≠ [] ∧ mark = front ++ back ∧ front <:+ left ∧ back <+: right

theorem Straddles.ne_nil (straddles : Straddles mark left right) : left ≠ [] ∧ right ≠ [] := by
  rcases straddles with ⟨front, back, someFront, someBack, _, isSuffix, isPrefix⟩
  exact ⟨fun none => someFront (List.suffix_nil.mp (none ▸ isSuffix)),
    fun none => someBack (List.prefix_nil.mp (none ▸ isPrefix))⟩

/-- What lies across a place has something of the mark on either side of it. -/
theorem Straddles.ends (straddles : Straddles mark left right) :
    (∃ item ∈ left.getLast?, item ∈ mark) ∧ ∃ item ∈ right.head?, item ∈ mark := by
  rcases straddles with ⟨front, back, someFront, someBack, rfl, ⟨before, rfl⟩, ⟨behind, rfl⟩⟩
  rcases List.eq_nil_or_concat front with none | ⟨init, last, rfl⟩
  · exact absurd none someFront
  · rcases List.exists_cons_of_ne_nil someBack with ⟨first, rest, rfl⟩
    exact ⟨⟨last, by simp, by simp⟩, ⟨first, by simp, by simp⟩⟩

theorem Straddles.cons (straddles : Straddles mark left right) (item : α) :
    Straddles mark (item :: left) right := by
  rcases straddles with ⟨front, back, someFront, someBack, cut, isSuffix, isPrefix⟩
  exact ⟨front, back, someFront, someBack, cut, isSuffix.trans (List.suffix_cons item left),
    isPrefix⟩

/-- A mark at the front of the whole that the first part is too short for lies across. -/
theorem straddles_of_isPrefix
    (some : left ≠ [])
    (begins : mark <+: left ++ right)
    (short : ¬mark <+: left) :
    Straddles mark left right := by
  rcases begins with ⟨behind, whole⟩
  rcases List.append_eq_append_iff.mp whole with ⟨rest, cut, _⟩ | ⟨back, cut, rest⟩
  · exact absurd ⟨rest, cut.symm⟩ short
  · refine ⟨left, back, some, ?_, cut, List.suffix_refl left, ⟨behind, rest.symm⟩⟩
    rintro rfl
    exact short ⟨[], by rw [cut, List.append_nil, List.append_nil]⟩

end Straddles

/-! ## Cutting in two parts -/

section Cutting

variable {α : Type} [BEq α] [LawfulBEq α] {mark left right : List α}

theorem exists_splitSkipping_append
    {first : List α} {behind : List (List α)}
    (cut : splitOn mark right = first :: behind)
    (apart : ¬Straddles mark left right)
    {skip : Nat}
    (within : skip ≤ left.length) :
    ∃ before last, splitSkipping mark skip left = before ++ [last] ∧
      splitSkipping mark skip (left ++ right) = before ++ (last ++ first) :: behind := by
  induction left generalizing skip with
  | nil =>
      obtain rfl : skip = 0 := Nat.le_zero.mp within
      exact ⟨[], [], rfl, cut⟩
  | cons item rest ih =>
      have restApart : ¬Straddles mark rest right := fun straddles => apart (straddles.cons item)
      cases skip with
      | succ skip => exact ih restApart (Nat.le_of_succ_le_succ within)
      | zero =>
          rw [List.cons_append, splitSkipping, splitSkipping]
          by_cases begins : mark <+: item :: rest
          · have beginsWhole : mark <+: item :: (rest ++ right) :=
              begins.trans (List.prefix_append (item :: rest) right)
            have inside : mark.length - 1 ≤ rest.length := by
              have shorter := begins.length_le
              rw [List.length_cons] at shorter
              omega
            rcases ih restApart inside with ⟨before, last, cutRest, cutWhole⟩
            rw [if_pos (List.isPrefixOf_iff_prefix.mpr begins),
              if_pos (List.isPrefixOf_iff_prefix.mpr beginsWhole), cutRest, cutWhole]
            exact ⟨[] :: before, last, rfl, rfl⟩
          · have beginsNot : ¬mark <+: item :: (rest ++ right) := fun beginsWhole =>
              apart (straddles_of_isPrefix (List.cons_ne_nil item rest) beginsWhole begins)
            rcases ih restApart (Nat.zero_le _) with ⟨before, last, cutRest, cutWhole⟩
            rw [if_neg (mt List.isPrefixOf_iff_prefix.mp begins),
              if_neg (mt List.isPrefixOf_iff_prefix.mp beginsNot), cutRest, cutWhole]
            -- The first piece is extended, which is the last one when there is no other.
            cases before with
            | nil => exact ⟨[], item :: last, rfl, rfl⟩
            | cons piece pieces => exact ⟨(item :: piece) :: pieces, last, rfl, rfl⟩

/--
When no mark lies across the place between two parts, they are cut one after the other,
and the last piece of the first part and the first piece of the second make one piece.
-/
theorem splitOn_append
    {before behind : List (List α)} {last first : List α}
    (cutLeft : splitOn mark left = before ++ [last])
    (cutRight : splitOn mark right = first :: behind)
    (apart : ¬Straddles mark left right) :
    splitOn mark (left ++ right) = before ++ (last ++ first) :: behind := by
  rcases exists_splitSkipping_append cutRight apart (Nat.zero_le _) with
    ⟨other, otherLast, cut, whole⟩
  have same := cutLeft.symm.trans cut
  rcases List.append_inj' same rfl with ⟨rfl, lasts⟩
  rw [List.singleton_inj.mp lasts]
  exact whole

/-- What has nothing of the mark is one piece. -/
theorem splitOn_of_disjoint
    (some : mark ≠ [])
    {items : List α}
    (disjoint : ∀ item ∈ items, item ∉ mark) :
    splitOn mark items = [items] := by
  induction items with
  | nil => rfl
  | cons item rest ih =>
      rw [List.forall_mem_cons] at disjoint
      have beginsNot : ¬mark <+: item :: rest := by
        intro begins
        rcases List.exists_cons_of_ne_nil some with ⟨head, tail, rfl⟩
        rw [List.cons_prefix_cons] at begins
        exact disjoint.1 (begins.1 ▸ List.mem_cons_self)
      rw [splitOn, splitSkipping, if_neg (mt List.isPrefixOf_iff_prefix.mp beginsNot),
        ← splitOn, ih disjoint.2]
      rfl

/-- The mark alone is cut into two empty pieces. -/
theorem splitOn_self (some : mark ≠ []) : splitOn mark mark = [[], []] := by
  have skipped : ∀ items : List α, splitSkipping mark items.length items = [[]] := by
    intro items
    induction items with
    | nil => rfl
    | cons item rest ih => exact ih
  rcases List.exists_cons_of_ne_nil some with ⟨head, tail, rfl⟩
  rw [splitOn, splitSkipping, if_pos (List.isPrefixOf_iff_prefix.mpr (List.prefix_refl _))]
  exact congrArg ([] :: ·) (skipped tail)

theorem exists_splitOn_last (mark items : List α) :
    ∃ before last, splitOn mark items = before ++ [last] := by
  have apart : ¬Straddles mark items [] := fun straddles => straddles.ne_nil.2 rfl
  rcases exists_splitSkipping_append rfl apart (Nat.zero_le _) with ⟨before, last, cut, _⟩
  exact ⟨before, last, cut⟩

theorem exists_splitOn_first (mark items : List α) :
    ∃ first behind, splitOn mark items = first :: behind := by
  rcases exists_splitOn_last mark items with ⟨before, last, cut⟩
  rw [cut]
  cases before with
  | nil => exact ⟨last, [], rfl⟩
  | cons first rest => exact ⟨first, rest ++ [last], rfl⟩

/-- There is one piece more than there are marks. -/
theorem length_splitWhere (mark : α) (items : List α) :
    (splitWhere (mark == ·) items).length = items.count mark + 1 := by
  induction items with
  | nil => rfl
  | cons item rest ih =>
      rw [splitWhere]
      split
      · rename_i same
        rw [List.length_cons, ih, ← LawfulBEq.eq_of_beq same, List.count_cons_self]
      · rename_i other
        rcases List.exists_cons_of_ne_nil (splitWhere_ne_nil (mark == ·) rest) with
          ⟨first, pieces, cut⟩
        have different : item ≠ mark := fun same => other (beq_iff_eq.mpr same.symm)
        rw [cut] at ih ⊢
        rw [List.count_cons_of_ne different, ← ih]
        rfl

end Cutting

/-- Blanks are no marks, so there are as many marks with them as without. -/
theorem count_insert
    {left blanks right : List Char} {mark : Char}
    (blank : ∀ char ∈ blanks, isBlank char = true)
    (solid : isBlank mark = false) :
    (left ++ blanks ++ right).count mark = (left ++ right).count mark := by
  have none : blanks.count mark = 0 := List.count_eq_zero.mpr fun member =>
    Bool.false_ne_true (solid.symm.trans (blank mark member))
  rw [List.count_append, List.count_append, none, List.count_append, Nat.add_zero]

/-! ## Marks between which texts are trimmed -/

/-- A mark that blanks cannot be part of, and that cannot overlap with itself. -/
structure IsMark (mark : List Char) : Prop where
  ne_nil : mark ≠ []
  solid : ∀ char ∈ mark, isBlank char = false
  unbordered : ∀ count < mark.length, mark.take count <:+ mark → count = 0

/-- The other marks are not empty and have no character of this one. -/
def SharesNothing (mark : List Char) (others : List (List Char)) : Prop :=
  ∀ other ∈ others, other ≠ [] ∧ ∀ char ∈ other, char ∉ mark

theorem isMark_singleton
    {char : Char}
    (solid : isBlank char = false) :
    IsMark [char] where
  ne_nil := List.cons_ne_nil char []
  solid := by simpa using solid
  unbordered count shorter _ := Nat.lt_one_iff.mp shorter

section Marks

variable {mark : List Char} {marks : List (List Char)} {left right blanks : List Char}

theorem IsMark.not_mem_of_isBlank
    (isMark : IsMark mark)
    {char : Char}
    (blank : isBlank char = true) :
    char ∉ mark := by
  intro member
  rw [isMark.solid char member] at blank
  cases blank

/-- A part that the mark begins and ends with is nothing, or all of it. -/
theorem IsMark.eq_nil_of_border
    (isMark : IsMark mark)
    {part : List Char}
    (isPrefix : part <+: mark)
    (isSuffix : part <:+ mark)
    (shorter : part.length < mark.length) :
    part = [] := by
  rw [List.prefix_iff_eq_take.mp isPrefix] at isSuffix
  exact List.length_eq_zero_iff.mp (isMark.unbordered part.length shorter isSuffix)

/-- No mark lies across a place beside it. -/
theorem IsMark.not_straddles_of_beside
    (isMark : IsMark mark)
    (beside : Beside mark left right) :
    ¬Straddles mark left right := by
  rintro ⟨front, back, someFront, someBack, cut, frontSuffix, backPrefix⟩
  have lengths : mark.length = front.length + back.length := by
    rw [cut, List.length_append]
  have frontLength := List.length_pos_iff.mpr someFront
  have backLength := List.length_pos_iff.mpr someBack
  -- The part on the side of the mark would be a border of it.
  rcases beside with isSuffix | isPrefix
  · have inMark := List.suffix_of_suffix_length_le frontSuffix isSuffix (by omega)
    exact someFront (isMark.eq_nil_of_border ⟨back, cut.symm⟩ inMark (by omega))
  · have inMark := List.prefix_of_prefix_length_le backPrefix isPrefix (by omega)
    exact someBack (isMark.eq_nil_of_border inMark ⟨front, cut.symm⟩ (by omega))

theorem not_straddles_of_other
    {other : List Char}
    (notNil : other ≠ [])
    (apart : ∀ char ∈ other, char ∉ mark)
    (beside : Beside other left right) :
    ¬Straddles mark left right := by
  intro straddles
  rcases straddles.ends with ⟨⟨last, isLast, lastIn⟩, ⟨first, isFirst, firstIn⟩⟩
  rcases beside with ⟨before, rfl⟩ | ⟨behind, rfl⟩
  · rw [List.getLast?_append_of_ne_nil _ notNil] at isLast
    exact apart last (List.mem_of_getLast? isLast) lastIn
  · rw [List.head?_append_of_ne_nil _ notNil] at isFirst
    exact apart first (List.mem_of_head? isFirst) firstIn

theorem IsMark.not_straddles
    (isMark : IsMark mark)
    (shares : SharesNothing mark marks)
    (loose : Loose (mark :: marks) left right) :
    ¬Straddles mark left right := by
  cases loose with
  | start none => exact fun straddles => straddles.ne_nil.1 none
  | finish none => exact fun straddles => straddles.ne_nil.2 none
  | beside other member beside =>
      rcases List.mem_cons.mp member with rfl | inner
      · exact isMark.not_straddles_of_beside beside
      · exact not_straddles_of_other (shares other inner).1 (shares other inner).2 beside

/-- Blanks between two parts stay within one piece. -/
theorem IsMark.splitOn_insert
    (isMark : IsMark mark)
    (apart : ¬Straddles mark left right)
    {before behind : List (List Char)} {last first : List Char}
    (cutLeft : splitOn mark left = before ++ [last])
    (cutRight : splitOn mark right = first :: behind)
    (blank : ∀ char ∈ blanks, isBlank char = true) :
    splitOn mark (left ++ blanks ++ right) = before ++ (last ++ blanks ++ first) :: behind := by
  by_cases none : blanks = []
  · rw [none, List.append_nil, List.append_nil]
    exact splitOn_append cutLeft cutRight apart
  · have free : ∀ char ∈ blanks, char ∉ mark :=
      fun char member => isMark.not_mem_of_isBlank (blank char member)
    have cutBlanks : splitOn mark blanks = [] ++ [blanks] :=
      splitOn_of_disjoint isMark.ne_nil free
    have apartRight : ¬Straddles mark blanks right :=
      not_straddles_of_other none free (.inl List.suffix_rfl)
    have apartLeft : ¬Straddles mark left (blanks ++ right) :=
      not_straddles_of_other none free (.inr (List.prefix_append blanks right))
    have further := splitOn_append cutBlanks cutRight apartRight
    rw [List.append_assoc, List.append_assoc]
    exact splitOn_append cutLeft further apartLeft

section Piece

variable
  {before behind : List (List Char)} {last first : List Char}
  (cutLeft : splitOn mark left = before ++ [last])
  (cutRight : splitOn mark right = first :: behind)
include cutLeft cutRight

/-- A place beside the mark is an end of its piece. -/
theorem IsMark.nil_of_beside
    (isMark : IsMark mark)
    (beside : Beside mark left right) :
    last = [] ∨ first = [] := by
  have cutMark : splitOn mark mark = [[]] ++ [[]] := splitOn_self isMark.ne_nil
  rcases beside with ⟨front, rfl⟩ | ⟨back, rfl⟩
  · rcases exists_splitOn_last mark front with ⟨pieces, piece, cutFront⟩
    have apart : ¬Straddles mark front mark :=
      isMark.not_straddles_of_beside (.inr List.prefix_rfl)
    rw [splitOn_append cutFront cutMark apart, List.append_cons] at cutLeft
    exact .inl (List.singleton_inj.mp (List.append_inj' cutLeft rfl).2).symm
  · rcases exists_splitOn_first mark back with ⟨piece, pieces, cutBack⟩
    have apart : ¬Straddles mark mark back :=
      isMark.not_straddles_of_beside (.inl List.suffix_rfl)
    rw [splitOn_append cutMark cutBack apart] at cutRight
    exact .inr (List.cons.inj cutRight).1.symm

/-- A place beside something without the mark is so in its piece, too. -/
theorem beside_piece
    {other : List Char}
    (some : mark ≠ [])
    (notNil : other ≠ [])
    (disjoint : ∀ char ∈ other, char ∉ mark)
    (beside : Beside other left right) :
    Beside other last first := by
  have cutOther : splitOn mark other = [] ++ [other] := splitOn_of_disjoint some disjoint
  rcases beside with ⟨front, rfl⟩ | ⟨back, rfl⟩
  · rcases exists_splitOn_last mark front with ⟨pieces, piece, cutFront⟩
    have apart : ¬Straddles mark front other :=
      not_straddles_of_other notNil disjoint (.inr List.prefix_rfl)
    rw [splitOn_append cutFront cutOther apart] at cutLeft
    exact .inl ⟨piece, List.singleton_inj.mp (List.append_inj' cutLeft rfl).2⟩
  · rcases exists_splitOn_first mark back with ⟨piece, pieces, cutBack⟩
    have apart : ¬Straddles mark other back :=
      not_straddles_of_other notNil disjoint (.inl List.suffix_rfl)
    rw [splitOn_append cutOther cutBack apart] at cutRight
    exact .inr ⟨piece, (List.cons.inj cutRight).1⟩

/-- The piece around a loose place is loose there for the marks that are left. -/
theorem IsMark.loose_piece
    (isMark : IsMark mark)
    (shares : SharesNothing mark marks)
    (loose : Loose (mark :: marks) left right) :
    Loose marks last first := by
  cases loose with
  | start none =>
      rw [none] at cutLeft
      have only : [] ++ [[]] = before ++ [last] := cutLeft
      exact .start (List.singleton_inj.mp (List.append_inj' only rfl).2).symm
  | finish none =>
      rw [none] at cutRight
      exact .finish (List.cons.inj cutRight).1.symm
  | beside other member beside =>
      rcases List.mem_cons.mp member with rfl | inner
      · exact (isMark.nil_of_beside cutLeft cutRight beside).elim .start .finish
      · have apart := shares other inner
        exact .beside other inner
          (beside_piece cutLeft cutRight isMark.ne_nil apart.1 apart.2 beside)

end Piece

/-- What ignores blanks in the pieces ignores them beside the mark between these, too. -/
theorem Ignores.map_splitAtText
    {β : Type} {read : String → β}
    (ignores : Ignores marks read)
    (separator : String)
    (isMark : IsMark separator.toList)
    (shares : SharesNothing separator.toList marks) :
    Ignores (separator.toList :: marks) fun text => (splitAtText separator text).map read := by
  intro left blanks right blank loose
  have apart := isMark.not_straddles shares loose
  rcases exists_splitOn_last separator.toList left with ⟨before, last, cutLeft⟩
  rcases exists_splitOn_first separator.toList right with ⟨first, behind, cutRight⟩
  have piece := isMark.loose_piece cutLeft cutRight shares loose
  simp only [splitAtText, String.toList_ofList, isMark.splitOn_insert apart cutLeft cutRight blank,
    splitOn_append cutLeft cutRight apart, List.map_append, List.map_cons,
    ignores last blanks first blank piece]

/-- What ignores blanks in the pieces ignores them beside the character between these, too. -/
theorem Ignores.map_splitAtChar
    {β : Type} {read : String → β}
    (ignores : Ignores marks read)
    (char : Char)
    (solid : isBlank char = false)
    (shares : SharesNothing [char] marks) :
    Ignores ([char] :: marks) fun text => (splitAtChar char text).map read := by
  have cut : ∀ text, splitAtChar char text = splitAtText (String.ofList [char]) text := by
    intro text
    rw [splitAtChar, splitAtText, String.toList_ofList, splitOn_singleton]
  have isMark : IsMark (String.ofList [char]).toList := by
    rw [String.toList_ofList]
    exact isMark_singleton solid
  simp only [cut]
  simpa using ignores.map_splitAtText (String.ofList [char]) isMark (by simpa using shares)

/-- Cutting into pieces does not see the blanks beside the marks. -/
theorem ignores_pieces
    {char : Char}
    (solid : isBlank char = false) :
    Ignores [[char]] (pieces char) :=
  ignores_trim.map_splitAtChar char solid fun _ member => absurd member List.not_mem_nil

end Marks

/-! ## Lines between others -/

/-- The middle part has no line break, and there is one before it and behind it or nothing. -/
structure IsLineBetween (earlier line later : List Char) : Prop where
  solid : ∀ char ∈ line, isLineBreak char = false
  before : ∀ char ∈ earlier.getLast?, isLineBreak char = true
  behind : ∀ char ∈ later.head?, isLineBreak char = true

/-- What stands between the same parts is one piece between the same pieces. -/
theorem exists_pieces_around
    {earlier later : List Char}
    (before : ∀ char ∈ earlier.getLast?, isLineBreak char = true)
    (behind : ∀ char ∈ later.head?, isLineBreak char = true) :
    ∃ front back, ∀ line, (∀ char ∈ line, isLineBreak char = false) →
      splitWhere isLineBreak (earlier ++ line ++ later) = front ++ line :: back := by
  have upTo : ∃ back, ∀ line, (∀ char ∈ line, isLineBreak char = false) →
      splitWhere isLineBreak (line ++ later) = line :: back := by
    cases later with
    | nil =>
        have cut : splitWhere isLineBreak [] = [[]] := rfl
        exact ⟨[], fun line solid => by simpa using splitWhere_append solid cut⟩
    | cons char rest =>
        refine ⟨splitWhere isLineBreak rest, fun line solid => ?_⟩
        have cut : splitWhere isLineBreak (char :: rest) = [] :: splitWhere isLineBreak rest := by
          rw [splitWhere, if_pos (behind char rfl)]
        rw [splitWhere_append solid cut, List.append_nil]
  rcases upTo with ⟨back, cut⟩
  rcases List.eq_nil_or_concat earlier with rfl | ⟨init, char, rfl⟩
  · exact ⟨[], back, cut⟩
  · have ends : isLineBreak char = true := before char (by simp)
    refine ⟨splitWhere isLineBreak init, back, fun line solid => ?_⟩
    have whole : init.concat char ++ line ++ later = init ++ char :: (line ++ later) := by
      simp
    rw [whole, splitWhere_append_cons ends, cut line solid]

end RegularModels.Text
