import RegularModels.Files.Directories

/-!
# Faults that the operating system reports

Paths without the null character lead nowhere only for reasons that the operating
system reports.  The same holds for saving a file, as long as no more directories are
missing before it than are made at once.
-/

namespace RegularModels

/-- The path does not hold the null character. -/
def PlainPath (path : String) : Prop :=
  '\x00' ∉ path.toList

namespace FileTree

variable {tree : FileTree} {path : String} {fault : FileFault} {error : FileError}

/-! ## Following a path -/

theorem isSystem_of_follow
    {place : Place} {path : List String}
    (stopped : follow place path = .error fault) :
    fault.isSystem = true := by
  fun_induction follow place path with
  | case1 | case7 => cases stopped
  -- The way leads through a file, a name is too long, or it is missing before the end.
  | case2 | case5 | case8 =>
      cases stopped
      rfl
  | case3 _ _ _ _ ih => exact ih stopped
  | case4 _ _ _ _ _ ih => exact ih stopped
  | case6 _ _ _ _ _ _ _ _ _ _ ih => exact ih stopped

theorem isSystem_of_resolve
    (plain : PlainPath path)
    (stopped : tree.resolve path = .error fault) :
    fault.isSystem = true := by
  unfold resolve at stopped
  split at stopped
  · rename_i null
    exact absurd (List.contains_iff_mem.mp null) plain
  · split at stopped
    · cases stopped
      rfl
    · split at stopped
      · cases stopped
        rfl
      · split at stopped
        · exact isSystem_of_follow stopped
        · cases stopped
          rfl

theorem isSystem_of_find
    (plain : PlainPath path)
    (stopped : tree.find path = .error fault) :
    fault.isSystem = true := by
  unfold find at stopped
  split at stopped
  · cases stopped
  · split at stopped
    · cases stopped
      rfl
    · cases stopped
  · cases stopped
    rfl
  · rename_i unresolved
    cases stopped
    exact isSystem_of_resolve plain unresolved

/-- A file under a plain path is read, or the operating system reports why not. -/
theorem isSystem_of_readBytes
    (plain : PlainPath path)
    (stopped : tree.readBytes path = .error error) :
    error.fault.isSystem = true := by
  unfold readBytes at stopped
  split at stopped
  · cases stopped
  · cases stopped
    rfl
  · rename_i missing
    cases stopped
    exact isSystem_of_find plain missing

/-- A file under a plain path is written, or the operating system reports why not. -/
theorem isSystem_of_writeBytes
    {contents : ByteArray}
    (plain : PlainPath path)
    (stopped : tree.writeBytes path contents = .error error) :
    error.fault.isSystem = true := by
  unfold writeBytes at stopped
  split at stopped
  · cases stopped
    rfl
  · split at stopped
    · cases stopped
      rfl
    · cases stopped
  · split at stopped
    · cases stopped
      rfl
    · cases stopped
  · rename_i unresolved
    cases stopped
    exact isSystem_of_resolve plain unresolved

/-! ## Making directories -/

theorem isSystem_of_makeDirectory
    (plain : PlainPath path)
    (stopped : tree.makeDirectory path = .error error) :
    error.fault.isSystem = true := by
  unfold makeDirectory at stopped
  split at stopped
  · cases stopped
    rfl
  · cases stopped
  · rename_i unresolved
    cases stopped
    exact isSystem_of_resolve plain unresolved

theorem isSystem_of_ensureDirectory
    (plain : PlainPath path)
    (stopped : tree.ensureDirectory path = .error error) :
    error.fault.isSystem = true := by
  unfold ensureDirectory at stopped
  split at stopped
  · cases stopped
  · rename_i refused
    split at stopped
    · cases stopped
    · cases stopped
      exact isSystem_of_makeDirectory plain refused

theorem isSystem_of_attemptDirectory
    (plain : PlainPath path)
    (stopped : (tree.attemptDirectory path).error = some error) :
    error.fault.isSystem = true := by
  unfold attemptDirectory at stopped
  split at stopped
  · cases stopped
  · rename_i refused
    cases stopped
    exact isSystem_of_ensureDirectory plain refused

/--
Making plain directories one around the other fails only for reasons of the operating system.
-/
theorem isSystem_of_makeWithin
    {paths : List String}
    (plain : ∀ path ∈ paths, PlainPath path)
    (stopped : (tree.makeWithin paths).error = some error) :
    error.fault.isSystem = true := by
  induction paths generalizing error with
  | nil => cases stopped
  | cons path around ih =>
      have pathPlain : PlainPath path := plain path (by simp)
      have aroundPlain : ∀ other ∈ around, PlainPath other :=
        fun other member => plain other (List.mem_cons_of_mem _ member)
      have attempted : ∀ prepared : FileTree,
          (if endsWithDot path then ⟨prepared, none⟩
            else prepared.attemptDirectory path : Attempt).error = some error →
          error.fault.isSystem = true := by
        intro prepared refused
        split at refused
        · cases refused
        · exact isSystem_of_attemptDirectory pathPlain refused
      rw [makeWithin] at stopped
      split at stopped
      · exact isSystem_of_attemptDirectory pathPlain stopped
      · dsimp only at stopped
        split at stopped
        · exact attempted _ stopped
        · exact attempted _ stopped
        · rename_i cause _ outer
          cases stopped
          exact ih aroundPlain outer

/-! ## Saving a file -/

theorem mem_of_mem_beginningsAfter
    {before rest : List Char} {beginning : String}
    (member : beginning ∈ beginningsAfter before rest)
    {char : Char} (occurs : char ∈ beginning.toList) :
    char ∈ before ∨ char ∈ rest := by
  induction rest generalizing before with
  | nil => simp [beginningsAfter] at member
  | cons first rest ih =>
      have later : beginning ∈ beginningsAfter (first :: before) rest →
          char ∈ before ∨ char ∈ first :: rest := by
        intro inRest
        rcases ih inRest with inBefore | inRest
        · rcases List.mem_cons.mp inBefore with rfl | inBefore
          · exact .inr List.mem_cons_self
          · exact .inl inBefore
        · exact .inr (List.mem_cons_of_mem _ inRest)
      rw [beginningsAfter] at member
      split at member
      · rcases List.mem_cons.mp member with rfl | inRest
        · rw [String.toList_ofList, List.mem_reverse] at occurs
          rcases List.mem_cons.mp occurs with rfl | inBefore
          · exact .inr List.mem_cons_self
          · exact .inl inBefore
        · exact later inRest
      · exact later member

theorem mem_of_mem_directoryPart
    {char : Char} (occurs : char ∈ (directoryPart path).toList) :
    char ∈ path.toList := by
  have upToSlash : ∀ char ∈ path.toList.reverse.dropWhile (· ≠ '/'), char ∈ path.toList :=
    fun char member => List.mem_reverse.mp ((List.dropWhile_sublist _).subset member)
  rw [directoryPart, String.toList_ofList, List.mem_reverse] at occurs
  split at occurs
  · exact upToSlash char occurs
  · exact upToSlash char ((List.dropWhile_sublist _).subset occurs)

/-- The directories before a plain path have plain paths. -/
theorem plainPath_of_mem_beginnings
    (plain : PlainPath path)
    {beginning : String} (member : beginning ∈ beginnings (directoryPart path)) :
    PlainPath beginning := by
  intro null
  rcases mem_of_mem_beginningsAfter member null with inNothing | inPart
  · simp at inNothing
  · exact plain (mem_of_mem_directoryPart inPart)

/-- At most all directories of a list have to be made. -/
theorem depth_le_length (tree : FileTree) (paths : List String) :
    tree.depth paths ≤ paths.length := by
  induction paths with
  | nil => exact Nat.le_refl 0
  | cons path around ih =>
      rw [depth, List.length_cons]
      split <;> omega

/-- The directories before the file are not more than can be made at once. -/
def Shallow (limit : Nat) (path : String) : Prop :=
  (beginnings (directoryPart path)).length ≤ limit

theorem isSystem_of_prepare
    (plain : PlainPath path)
    {limit : Nat} (shallow : Shallow limit path)
    (stopped : (tree.prepare limit path).error = some error) :
    error.fault.isSystem = true := by
  have deepest := tree.depth_le_length (beginnings (directoryPart path)).reverse
  rw [List.length_reverse] at deepest
  have notTooDeep : ¬tree.depth (beginnings (directoryPart path)).reverse > limit :=
    Nat.not_lt.mpr (Nat.le_trans deepest shallow)
  rw [prepare, if_neg notTooDeep] at stopped
  apply isSystem_of_makeWithin _ stopped
  intro beginning member
  exact plainPath_of_mem_beginnings plain (List.mem_reverse.mp member)

/-- Saving under a plain and shallow path fails only for reasons of the operating system. -/
theorem isSystem_of_save
    {text : String}
    (plain : PlainPath path)
    {limit : Nat} (shallow : Shallow limit path)
    (stopped : (tree.save limit path text).error = some error) :
    error.fault.isSystem = true := by
  rw [save, saveBytes] at stopped
  split at stopped
  · rename_i unprepared
    cases stopped
    exact isSystem_of_prepare plain shallow unprepared
  · split at stopped
    · cases stopped
    · rename_i unwritten
      cases stopped
      exact isSystem_of_writeBytes plain unwritten

end FileTree

end RegularModels
