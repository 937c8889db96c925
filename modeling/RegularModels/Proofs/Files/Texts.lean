import RegularModels.Proofs.Entries
import RegularModels.Proofs.Files.Faults

/-!
# Trees of texts

Saving texts and making directories keeps a tree in which every file holds UTF-8
text.  In such a tree a file can be read under every plain path, or the operating
system reports why not.
-/

namespace RegularModels

/-! ## Entries -/

/-- Every file in the entry holds UTF-8 text. -/
inductive FileEntry.AllText : FileEntry → Prop where
  | file {contents : ByteArray} : contents.IsValidUTF8 → AllText (.file contents)
  | directory {entries : List (String × FileEntry)} :
      (∀ entry ∈ entries, AllText entry.2) → AllText (.directory entries)

namespace FileEntry

variable {inside : List (String × FileEntry)} {entry : FileEntry}

theorem AllText.forall_mem (texts : (FileEntry.directory inside).AllText) :
    ∀ named ∈ inside, named.2.AllText := by
  cases texts with
  | directory texts => exact texts

/-- The entries in a text file or in a directory of texts, which may be none. -/
theorem AllText.child?
    {name : String} {child : FileEntry}
    (texts : entry.AllText)
    (found : entry.child? name = some child) :
    child.AllText := by
  cases texts with
  | file text => cases found
  | directory texts => exact texts _ (Table.mem_of_lookup found)

theorem AllText.write
    (texts : (FileEntry.directory inside).AllText)
    (text : entry.AllText)
    (name : String) :
    (FileEntry.directory (Table.write name entry inside)).AllText := by
  apply AllText.directory
  intro named member
  rcases Table.mem_of_mem_write member with rfl | old
  · exact text
  · exact texts.forall_mem named old

/-- Putting a text somewhere among texts leaves texts. -/
theorem AllText.putIn
    {location : Location}
    (texts : (FileEntry.directory inside).AllText)
    (text : entry.AllText) :
    (FileEntry.directory (FileEntry.putIn inside location entry)).AllText := by
  induction location generalizing inside with
  | nil => exact texts
  | cons name rest ih =>
      cases rest with
      | nil => exact texts.write text name
      | cons next rest =>
          rw [FileEntry.putIn]
          split
          · rename_i further found
            have furtherTexts : (FileEntry.directory further).AllText :=
              texts.forall_mem _ (Table.mem_of_lookup found)
            exact texts.write (ih furtherTexts) name
          · exact texts
          · exact texts

end FileEntry

/-! ## Places -/

/-- The entry at the place and the directories around it hold texts only. -/
structure Place.AllText (place : Place) : Prop where
  entry : place.entry.AllText
  around : ∀ step ∈ place.around, step.2.AllText

namespace Place

variable {place : Place}

theorem AllText.up (texts : place.AllText) : place.up.AllText := by
  unfold Place.up
  split
  · exact texts
  · rename_i name directory around equal
    have aroundTexts := texts.around
    rw [equal] at aroundTexts
    exact ⟨aroundTexts _ List.mem_cons_self,
      fun step member => aroundTexts step (List.mem_cons_of_mem _ member)⟩

theorem AllText.down
    (texts : place.AllText)
    {entry : FileEntry} (text : entry.AllText)
    (name : String) :
    (place.down name entry).AllText := by
  refine ⟨text, ?_⟩
  intro step member
  rcases List.mem_cons.mp member with rfl | further
  · exact texts.entry
  · exact texts.around step further

theorem AllText.descend?
    {location : Location} {inner : Place}
    (texts : place.AllText)
    (found : place.descend? location = some inner) :
    inner.AllText := by
  induction location generalizing place with
  | nil =>
      cases found
      exact texts
  | cons name rest ih =>
      rw [Place.descend?] at found
      split at found
      · rename_i entry child
        exact ih (texts.down (texts.entry.child? child) name) found
      · cases found

end Place

/-! ## Trees -/

namespace FileTree

variable {tree : FileTree} {path : String}

/-- Every file in the tree holds UTF-8 text. -/
def AllText (tree : FileTree) : Prop :=
  (FileEntry.directory tree.entries).AllText

theorem AllText.put
    {entry : FileEntry}
    (texts : tree.AllText)
    (text : entry.AllText)
    (location : Location) :
    (tree.put location entry).AllText :=
  FileEntry.AllText.putIn texts text

/-- What a path leads to among texts is a text or a directory of texts. -/
theorem AllText.follow
    {place : Place} {names : List String} {location : Location} {entry : FileEntry}
    (texts : place.AllText)
    (found : FileTree.follow place names = .ok (.present location entry)) :
    entry.AllText := by
  fun_induction FileTree.follow place names with
  | case1 =>
      cases found
      exact texts.entry
  | case2 | case5 | case7 | case8 => cases found
  | case3 _ _ _ _ ih => exact ih texts found
  | case4 _ _ _ _ _ ih => exact ih texts.up found
  | case6 place name _ _ directory _ _ _ child named ih =>
      have inner : place.entry.child? name = some child := by
        rw [FileEntry.child?, directory]
        exact named
      exact ih (texts.down (texts.entry.child? inner) name) found

theorem AllText.resolve
    {location : Location} {entry : FileEntry}
    (texts : tree.AllText)
    (found : tree.resolve path = .ok (.present location entry)) :
    entry.AllText := by
  have rootTexts : tree.root.AllText := ⟨texts, by simp [root]⟩
  unfold FileTree.resolve at found
  split at found
  · cases found
  · split at found
    · cases found
    · split at found
      · cases found
      · split at found
        · rename_i place origin
          apply AllText.follow _ found
          unfold origin? at origin
          split at origin
          · cases origin
            exact rootTexts
          · exact rootTexts.descend? origin
        · cases found

/-- What is read among texts is text. -/
theorem AllText.readBytes
    {contents : ByteArray}
    (texts : tree.AllText)
    (read : tree.readBytes path = .ok contents) :
    contents.IsValidUTF8 := by
  unfold FileTree.readBytes at read
  split at read
  · rename_i stored found
    cases read
    unfold find at found
    split at found
    · cases found
    · rename_i resolved
      split at found
      · cases found
      · cases found
        cases texts.resolve resolved with
        | file valid => exact valid
    · cases found
    · cases found
  · cases read
  · cases read

/-- A file under a plain path is read, or the operating system reports why not. -/
theorem AllText.isSystem_of_readText
    {error : FileError}
    (texts : tree.AllText)
    (plain : PlainPath path)
    (stopped : tree.readText path = .error error) :
    error.fault.isSystem = true := by
  unfold readText at stopped
  split at stopped
  · rename_i unread
    cases stopped
    exact isSystem_of_readBytes plain unread
  · rename_i contents read
    have valid : contents.IsValidUTF8 := texts.readBytes read
    rw [String.fromUTF8?, dif_pos valid] at stopped
    cases stopped

theorem AllText.makeDirectory
    {made : FileTree}
    (texts : tree.AllText)
    (went : tree.makeDirectory path = .ok made) :
    made.AllText := by
  unfold FileTree.makeDirectory at went
  split at went
  · cases went
  · cases went
    exact texts.put (.directory (by simp)) _
  · cases went

theorem AllText.ensureDirectory
    {made : FileTree}
    (texts : tree.AllText)
    (went : tree.ensureDirectory path = .ok made) :
    made.AllText := by
  unfold FileTree.ensureDirectory at went
  split at went
  · rename_i next new
    cases went
    exact texts.makeDirectory new
  · split at went
    · cases went
      exact texts
    · cases went

theorem AllText.attemptDirectory (texts : tree.AllText) (path : String) :
    (tree.attemptDirectory path).tree.AllText := by
  unfold FileTree.attemptDirectory
  split
  · rename_i made went
    exact texts.ensureDirectory went
  · exact texts

/-- Making directories adds no files. -/
theorem AllText.makeWithin (texts : tree.AllText) (paths : List String) :
    (tree.makeWithin paths).tree.AllText := by
  induction paths with
  | nil => exact texts
  | cons path around ih =>
      rw [FileTree.makeWithin]
      split
      · exact texts.attemptDirectory path
      · dsimp only
        split
        · split
          · exact ih
          · exact ih.attemptDirectory path
        · split
          · exact ih
          · exact ih.attemptDirectory path
        · exact ih

theorem AllText.prepare (texts : tree.AllText) (limit : Nat) (path : String) :
    (tree.prepare limit path).tree.AllText := by
  rw [FileTree.prepare]
  split
  · exact texts
  · exact texts.makeWithin _

theorem AllText.writeBytes
    {contents : ByteArray} {written : FileTree}
    (texts : tree.AllText)
    (valid : contents.IsValidUTF8)
    (went : tree.writeBytes path contents = .ok written) :
    written.AllText := by
  unfold FileTree.writeBytes at went
  split at went
  · cases went
  · split at went
    · cases went
    · cases went
      exact texts.put (.file valid) _
  · split at went
    · cases went
    · cases went
      exact texts.put (.file valid) _
  · cases went

/-- Saving a text leaves a tree of texts behind, also when it fails. -/
theorem AllText.save (texts : tree.AllText) (limit : Nat) (path text : String) :
    (tree.save limit path text).tree.AllText := by
  have prepared := texts.prepare limit path
  rw [FileTree.save, saveBytes]
  -- With the preparation held fixed, only what it leaves behind matters.
  generalize tree.prepare limit path = attempt at prepared ⊢
  split
  · exact prepared
  · split
    · rename_i written went
      exact prepared.writeBytes text.isValidUTF8 went
    · exact prepared

end FileTree

end RegularModels
