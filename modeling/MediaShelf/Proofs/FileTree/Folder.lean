import MediaShelf.Proofs.FileTree.Change

/-!
# Files in one directory

Writing and removing the files of a directory changes nothing elsewhere, and paths keep their
meaning. Making a directory that is there already changes nothing at all.

## Main definitions

* `FileTree.ChangesIn` — a later tree that differs by the files of one directory
* `Disk.IsQuiet` — a disk that lets everything happen that its tree allows

## Main results

* `FileTree.perform_write`, `FileTree.perform_removeFile` — what is written or removed
* `FileTree.perform_removeFile_of_file` — a file is removed unless that is refused
* `FileTree.perform_removeFile_keeps` — what is kept, whether or not a file can be removed
* `FileTree.copyFile_of_vacant` — what is copied to a new place
* `FileTree.perform_makeDirectory_push` — a directory within another
* `FileTree.mem_childNames`, `FileTree.children_eq_ok` — the names in a directory
-/

namespace MediaShelf

/-- From now on nothing is refused for reasons outside the tree. -/
def Disk.IsQuiet (disk : Disk) : Prop := ∀ time, disk.now ≤ time → disk.refusal time = none

/-- A quiet disk stays quiet. -/
theorem Disk.IsQuiet.perform {disk : Disk} (h : disk.IsQuiet) (change : Change) :
    (Disk.perform change disk).2.IsQuiet := fun time htime => h time (Nat.le_of_succ_le htime)

namespace FileTree

variable {tree before after later : FileTree} {folder place goal : Location} {path : Path}
  {name : List Char} {content : ByteArray} {modified : Nat} {disk : Disk}

/-- The later tree differs directly below the folder alone, and no directory disappeared. -/
structure ChangesIn (folder : Location) (before after : FileTree) : Prop where
  formed : after.WellFormed
  keeps : KeepsDirectories before after
  elsewhere : ∀ {place}, (∀ name, place ≠ folder ++ [name]) → after.get? place = before.get? place

theorem ne_nil_of_not_directory (h : tree.get? place ≠ some .directory) : place ≠ [] := by
  rintro rfl
  exact h rfl

/-- No directory disappears when something is put where none is. -/
theorem KeepsDirectories.put {entry : Entry} (hfree : tree.get? place ≠ some .directory) :
    KeepsDirectories tree (tree.put place entry) := by
  refine ⟨rfl, fun {other} hother => ?_⟩
  rw [get?_put (ne_nil_of_not_directory hfree), if_neg]
  · exact hother
  · rintro rfl
    exact hfree hother

namespace ChangesIn

theorem refl (h : tree.WellFormed) : ChangesIn folder tree tree := ⟨h, .refl tree, fun _ => rfl⟩

theorem trans (h : ChangesIn folder before after) (hlater : ChangesIn folder after later) :
    ChangesIn folder before later where
  formed := hlater.formed
  keeps := h.keeps.trans hlater.keeps
  elsewhere hplace := (hlater.elsewhere hplace).trans (h.elsewhere hplace)

/-- A file put into a folder, where no directory is. -/
theorem put (h : tree.WellFormed) (hfolder : tree.get? folder = some .directory)
    (hfree : tree.get? (folder ++ [name]) ≠ some .directory) :
    ChangesIn folder tree (tree.put (folder ++ [name]) (.file content modified)) where
  formed := h.put hfolder fun hdirectory => absurd hdirectory hfree
  keeps := .put hfree
  elsewhere hplace := by rw [get?_put (by simp), if_neg (hplace name)]

/-- A file removed from a folder. -/
theorem remove (h : tree.WellFormed)
    (hfile : tree.get? (folder ++ [name]) = some (.file content modified)) :
    ChangesIn folder tree (tree.remove (folder ++ [name])) := by
  have hkeeps : KeepsDirectories tree (tree.remove (folder ++ [name])) := by
    refine ⟨rfl, fun {place} hplace => ?_⟩
    rw [get?_remove (by simp), if_neg]
    · exact hplace
    · rintro rfl
      rw [hfile] at hplace
      cases hplace
  refine ⟨⟨fun {place n entry} hentry => hkeeps.directory ?_, hkeeps.directory h.start⟩, hkeeps,
    fun hplace => by rw [get?_remove (by simp), if_neg (hplace name)]⟩
  rw [get?_remove (by simp)] at hentry
  split at hentry
  · cases hentry
  · exact h.above hentry

end ChangesIn

/-! ### Changes that were made -/

/-- A change that failed left everything as it was, unless it was to make directories or to copy a
file. -/
theorem tree_of_perform_error {change : Change} {cause : IoError}
    (hother : ∀ path, change ≠ .makeDirectory path)
    (hcopy : ∀ source target, change ≠ .copy source target)
    (h : (Disk.perform change disk).1 = .error cause) :
    (Disk.perform change disk).2.tree = disk.tree := by
  have hsettle {answer : Except IoError FileTree}
      (hfailed : (disk.tree.settle answer).2 = .error cause) :
      (disk.tree.settle answer).1 = disk.tree := by
    cases answer with
    | ok changed => cases hfailed
    | error e => rfl
  unfold Disk.perform at h ⊢
  cases hrefusal : disk.refusal disk.now with
  | some refusal =>
    cases change with
    | makeDirectory path => exact absurd rfl (hother path)
    | copy source target => exact absurd rfl (hcopy source target)
    | _ => rfl
  | none =>
    rw [hrefusal] at h
    cases change with
    | makeDirectory path => exact absurd rfl (hother path)
    | _ => exact hsettle h

/-- A file is written where its path leads, if no directory is there. -/
theorem writeFile_eq_ok {now : Nat} :
    tree.writeFile now path content = .ok after ↔ ∃ place, tree.locate path = .ok place ∧
      tree.get? place ≠ some .directory ∧ after = tree.put place (.file content now) := by
  unfold writeFile
  cases hlocate : tree.locate path with
  | error e => simp [Bind.bind, Except.bind]
  | ok place =>
    simp only [Bind.bind, Except.bind, Except.ok.injEq, exists_eq_left']
    split
    · rename_i hdirectory
      simp [hdirectory, throw, throwThe, MonadExceptOf.throw]
    · rename_i hfree
      simpa [Pure.pure, Except.pure, eq_comm] using fun _ hdirectory => hfree hdirectory

/-- A file that was written is where its path leads, where no directory was. -/
theorem perform_write (h : (Disk.perform (.write path content) disk).1 = .ok ()) :
    ∃ place, disk.tree.locate path = .ok place ∧ disk.tree.get? place ≠ some .directory ∧
      (Disk.perform (.write path content) disk).2.tree =
        disk.tree.put place (.file content disk.now) := by
  unfold Disk.perform at h ⊢
  cases hrefusal : disk.refusal disk.now with
  | some refusal => simp [hrefusal] at h
  | none =>
    simp only [hrefusal, apply] at h ⊢
    cases hwrite : disk.tree.writeFile disk.now path content with
    | error e => simp [hwrite, settle] at h
    | ok written =>
      obtain ⟨place, hlocate, hfree, rfl⟩ := writeFile_eq_ok.mp hwrite
      exact ⟨place, hlocate, hfree, rfl⟩

/-- A file that was removed was where its path leads. -/
theorem perform_removeFile (h : (Disk.perform (.removeFile path) disk).1 = .ok ()) :
    ∃ place content modified, disk.tree.locate path = .ok place ∧
      disk.tree.get? place = some (.file content modified) ∧
      (Disk.perform (.removeFile path) disk).2.tree = disk.tree.remove place := by
  unfold Disk.perform at h ⊢
  cases hrefusal : disk.refusal disk.now with
  | some refusal => simp [hrefusal] at h
  | none =>
    simp only [hrefusal, apply, deleteFile] at h ⊢
    cases hentry : disk.tree.entryAt path with
    | error e => simp [hentry, Bind.bind, Except.bind, settle] at h
    | ok found =>
      obtain ⟨hlocate, hget⟩ := entryAt_eq_ok.mp hentry
      obtain ⟨place, entry⟩ := found
      cases entry with
      | directory =>
        simp [hentry, Bind.bind, Except.bind, settle, throw, throwThe, MonadExceptOf.throw] at h
      | file content modified =>
        exact ⟨place, content, modified, hlocate, hget,
          by simp [Bind.bind, Except.bind, settle, Pure.pure, Except.pure]⟩

/-- What is kept when some file is removed is kept when one is to be, whether or not it can be. -/
theorem perform_removeFile_keeps (keeps : FileTree → Prop)
    (hremove : ∀ tree place content modified, keeps tree →
      tree.get? place = some (.file content modified) → keeps (tree.remove place))
    (disk : Disk) (path : Path) (h : keeps disk.tree) :
    keeps (Disk.perform (.removeFile path) disk).2.tree := by
  cases hdone : (Disk.perform (.removeFile path) disk).1 with
  | error cause => rwa [tree_of_perform_error (by simp) (by simp) hdone]
  | ok done =>
    obtain ⟨place, content, modified, -, hfile, htree⟩ := perform_removeFile hdone
    rw [htree]
    exact hremove _ _ _ _ h hfile

/-- A file is removed from where its path leads, unless something outside the tree keeps it. -/
theorem perform_removeFile_of_file (hquiet : disk.refusal disk.now = none)
    (hlocate : disk.tree.locate path = .ok place)
    (hfile : disk.tree.get? place = some (.file content modified)) :
    (Disk.perform (.removeFile path) disk).1 = .ok () ∧
      (Disk.perform (.removeFile path) disk).2.tree = disk.tree.remove place := by
  have hdelete : disk.tree.deleteFile path = .ok (disk.tree.remove place) := by
    simp [deleteFile, entryAt_eq_ok.mpr ⟨hlocate, hfile⟩, Bind.bind, Except.bind, Pure.pure,
      Except.pure]
  simp [Disk.perform, hquiet, apply, hdelete, settle]

/-- Pieces that lead to a directory need no directories to be made. -/
theorem makeDirectories_append {others pieces : List (List Char)} {start : Location}
    (h : tree.follow start pieces = .ok goal) (hgoal : tree.get? goal = some .directory) :
    tree.makeDirectories start (pieces ++ others) = tree.makeDirectories goal others := by
  induction pieces generalizing start with
  | nil => rw [Except.ok.inj h, List.nil_append]
  | cons piece pieces ih =>
    rw [List.cons_append, makeDirectories]
    obtain ⟨-, ⟨hskip, hrest⟩ | ⟨rfl, hrest⟩ | ⟨hcounts, hup, hsize, hrest⟩⟩ := follow_cons h
    · rw [if_pos (by simpa [Path.counts, or_iff_not_imp_left] using hskip)]
      exact ih hrest
    · exact ih hrest
    · -- what a piece leads to is the goal or has a piece behind it, so it is a directory
      have hthere : tree.get? (start ++ [piece]) = some .directory := by
        cases pieces with
        | nil => rw [Except.ok.inj hrest, hgoal]
        | cons next pieces => exact (follow_cons hrest).1
      rw [if_neg (by simpa [Path.counts, not_or] using hcounts), if_neg hup]
      simp only [if_neg (Nat.not_lt.mpr hsize), hthere]
      exact ih hrest

/-- A directory that was made within another one is there afterwards, and nothing else changed. -/
theorem perform_makeDirectory_push (hlocate : disk.tree.locate path = .ok folder)
    (hfolder : disk.tree.get? folder = some .directory) (hname : Path.IsName name)
    (hnull : '\x00' ∉ name)
    (h : (Disk.perform (.makeDirectory (path.push name)) disk).1 = .ok ()) :
    nameSize name ≤ nameLimit ∧
      (disk.tree.get? (folder ++ [name]) = some .directory ∧
          (Disk.perform (.makeDirectory (path.push name)) disk).2.tree = disk.tree ∨
        disk.tree.get? (folder ++ [name]) = none ∧
          (Disk.perform (.makeDirectory (path.push name)) disk).2.tree =
            disk.tree.put (folder ++ [name]) .directory) := by
  unfold Disk.perform at h ⊢
  cases hrefusal : disk.refusal disk.now with
  | some refusal => simp [hrefusal] at h
  | none =>
    have hmade : disk.tree.apply disk.now (.makeDirectory (path.push name)) =
        disk.tree.makeDirectories folder [name] := by
      obtain ⟨hempty, htext, before, hpieces, hfollow⟩ :=
        push_of_locate hlocate hname.no_slash hnull
      rw [apply, if_neg (by simpa using hempty), if_neg (by simpa using htext), hpieces,
        makeDirectories_append hfollow hfolder]
    simp only [hrefusal, hmade] at h ⊢
    have hcounts : ¬(name = [] ∨ name = ['.']) := by simp [hname.ne_nil, hname.ne_here]
    simp only [makeDirectories, if_neg hcounts, if_neg hname.ne_up] at h ⊢
    split at h
    · cases h
    · rename_i hsize
      refine ⟨Nat.not_lt.mp hsize, ?_⟩
      simp only [if_neg hsize]
      cases hget : disk.tree.get? (folder ++ [name]) with
      | none => exact .inr ⟨rfl, rfl⟩
      | some entry =>
        cases entry with
        | directory => exact .inl ⟨rfl, rfl⟩
        | file content modified => simp [hget] at h

/-! ### Copies -/

/-- What was put somewhere last is there. -/
theorem put_put {entry other : Entry} :
    (tree.put place entry).put place other = tree.put place other := by
  simp [put, List.filter_append]

/-- A file that is copied to where no file is is new there, with as much of its content as is let
through. -/
theorem copyFile_of_vacant {source target : Path} {origin : Location} {now : Nat}
    {part : ByteArray → ByteArray} (h : tree.WellFormed) (hsource : tree.locate source = .ok origin)
    (hfile : tree.get? origin = some (.file content modified))
    (hvacant : tree.isFile target = false)
    (hcopy : tree.copyFile now source target part = .ok after) :
    ∃ parent name, tree.locate target = .ok (parent ++ [name]) ∧
      tree.get? parent = some .directory ∧ tree.get? (parent ++ [name]) = none ∧
      after = tree.put (parent ++ [name]) (.file (part content) now) := by
  simp only [copyFile, entryAt_eq_ok.mpr ⟨hsource, hfile⟩, Bind.bind, Except.bind] at hcopy
  cases hempty : tree.writeFile now target .empty with
  | error e => simp [hempty] at hcopy
  | ok emptied =>
    obtain ⟨goal, hgoal, hdirectory, rfl⟩ := writeFile_eq_ok.mp hempty
    obtain ⟨parent, name, rfl, hparent⟩ := h.exists_folder hgoal hdirectory
    have hnone : tree.get? (parent ++ [name]) = none := by
      cases hget : tree.get? (parent ++ [name]) with
      | none => rfl
      | some entry =>
        cases entry with
        | directory => exact absurd hget hdirectory
        | file content modified =>
          rw [isFile_iff.mpr ⟨_, content, modified, hgoal, hget⟩] at hvacant
          cases hvacant
    -- the source is still to be read when the target is there
    have hextends : Extends tree (tree.put (parent ++ [name]) (.file .empty now)) := .put hnone
    have hread := hextends.readBytes (readBytes_eq_ok.mpr ⟨origin, modified, hsource, hfile⟩)
    simp only [hempty, hread] at hcopy
    obtain ⟨place, hplace, -, rfl⟩ := writeFile_eq_ok.mp hcopy
    obtain rfl : parent ++ [name] = place :=
      Except.ok.inj ((hextends.keepsDirectories.locate hgoal).symm.trans hplace)
    exact ⟨parent, name, hgoal, hparent, hnone, put_put⟩

/-! ### Names in a directory -/

/-- A place is listed in a folder under the name that it adds to the folder. -/
theorem childName_eq_some {place : Location} :
    (if place.length = folder.length + 1 && folder.isPrefixOf place then place.getLast?
      else none) = some name ↔ place = folder ++ [name] := by
  constructor
  · intro h
    split at h
    · rename_i hbelow
      simp only [Bool.and_eq_true, decide_eq_true_eq, List.isPrefixOf_iff_prefix] at hbelow
      obtain ⟨hlength, below, rfl⟩ := hbelow
      obtain ⟨last, rfl⟩ := List.length_eq_one_iff.mp (by simpa using hlength)
      rw [List.getLast?_concat, Option.some.injEq] at h
      rw [h]
    · cases h
  · rintro rfl
    simp

/-- The names in a directory are those with an entry. -/
theorem mem_childNames :
    name ∈ tree.childNames folder ↔ (tree.get? (folder ++ [name])).isSome := by
  rw [get?_of_ne_nil (by simp), List.lookup_isSome_iff, childNames, List.mem_filterMap]
  refine exists_congr fun pair => and_congr_right fun _ => ?_
  rw [beq_iff_eq, eq_comm (a := folder ++ [name])]
  exact childName_eq_some

/-- A path has children if it leads to a directory. -/
theorem children_eq_ok {names : List (List Char)} :
    tree.children path = .ok names ↔ ∃ place, tree.locate path = .ok place ∧
      tree.get? place = some .directory ∧ tree.childNames place = names := by
  unfold children
  cases hentry : tree.entryAt path with
  | error e =>
    simp only [Bind.bind, Except.bind, reduceCtorEq, false_iff]
    rintro ⟨place, hlocate, hdirectory, -⟩
    rw [entryAt_eq_ok.mpr ⟨hlocate, hdirectory⟩] at hentry
    cases hentry
  | ok found =>
    obtain ⟨hlocate, hget⟩ := entryAt_eq_ok.mp hentry
    obtain ⟨found, entry⟩ := found
    have hplace {place : Location} (h : tree.locate path = .ok place) : found = place :=
      Except.ok.inj (hlocate.symm.trans h)
    cases entry with
    | directory =>
      simp only [Bind.bind, Except.bind, Pure.pure, Except.pure, Except.ok.injEq]
      constructor
      · intro hnames
        exact ⟨found, hlocate, hget, hnames⟩
      · rintro ⟨place, hother, -, hnames⟩
        rwa [hplace hother]
    | file content modified =>
      simp only [Bind.bind, Except.bind, throw, throwThe, MonadExceptOf.throw, reduceCtorEq,
        false_iff]
      rintro ⟨place, hother, hdirectory, -⟩
      rw [← hplace hother, hget] at hdirectory
      cases hdirectory

end FileTree

end MediaShelf
