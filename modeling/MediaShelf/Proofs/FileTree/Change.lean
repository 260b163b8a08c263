import MediaShelf.FileTree.Disk
import MediaShelf.Proofs.FileTree.Locate

/-!
# What changes leave alone

Making directories, even if it is broken off, takes nothing away and adds nothing but directories.
Moving a file changes what is at its place and at its target.

## Main definitions

* `FileTree.Extends` — a later tree that has all entries of an earlier one
* `FileTree.AddsDirectories` — a later tree that differs by new directories alone

## Main results

* `FileTree.WellFormed.exists_folder` — what a path names lies in a directory
* `FileTree.makeDirectories_adds` — making directories does no more than that
* `FileTree.WellFormed.relocate` — a tree stays well-formed when a file moves
* `FileTree.moveEntry_file` — where a file is moved to
-/

namespace MediaShelf.FileTree

variable {tree before after later : FileTree} {path source target : Path}
  {start origin goal place : Location} {pieces : List (List Char)} {content : ByteArray}
  {modified : Nat} {name : List Char}

/-- The later tree has all entries of the earlier one and besides them only directories. -/
structure AddsDirectories (before after : FileTree) : Prop where
  workingDirectory : after.workingDirectory = before.workingDirectory
  kept : ∀ {place entry}, before.get? place = some entry → after.get? place = some entry
  added : ∀ {place entry}, before.get? place = none → after.get? place = some entry →
    entry = .directory

/-- The later tree has all entries of the earlier one, as they were. -/
structure Extends (before after : FileTree) : Prop where
  workingDirectory : after.workingDirectory = before.workingDirectory
  kept : ∀ {place entry}, before.get? place = some entry → after.get? place = some entry

namespace Extends

theorem refl (tree : FileTree) : Extends tree tree := ⟨rfl, id⟩

theorem trans (h : Extends before after) (hlater : Extends after later) : Extends before later :=
  ⟨hlater.workingDirectory.trans h.workingDirectory, fun hold => hlater.kept (h.kept hold)⟩

theorem keepsDirectories (h : Extends before after) : KeepsDirectories before after :=
  ⟨h.workingDirectory, h.kept⟩

/-- What a path names is the same later. -/
theorem entryAt (h : Extends before after) {entry : Entry}
    (hentry : before.entryAt path = .ok (place, entry)) :
    after.entryAt path = .ok (place, entry) := by
  obtain ⟨hlocate, hget⟩ := entryAt_eq_ok.mp hentry
  exact entryAt_eq_ok.mpr ⟨h.keepsDirectories.locate hlocate, h.kept hget⟩

/-- A file that can be read has the same content later. -/
theorem readBytes (h : Extends before after) (hread : before.readBytes path = .ok content) :
    after.readBytes path = .ok content := by
  obtain ⟨place, modified, hlocate, hget⟩ := readBytes_eq_ok.mp hread
  exact readBytes_eq_ok.mpr ⟨place, modified, h.keepsDirectories.locate hlocate, h.kept hget⟩

/-- A new entry where nothing was. -/
theorem put {entry : Entry} (hnone : tree.get? (place ++ [name]) = none) :
    Extends tree (tree.put (place ++ [name]) entry) := by
  refine ⟨rfl, fun {other found} hother => ?_⟩
  rw [get?_put (by simp), if_neg]
  · exact hother
  · rintro rfl
    rw [hnone] at hother
    cases hother

end Extends

namespace AddsDirectories

theorem refl (tree : FileTree) : AddsDirectories tree tree :=
  ⟨rfl, id, fun hnone hsome => by rw [hnone] at hsome; cases hsome⟩

theorem trans (h : AddsDirectories before after) (hlater : AddsDirectories after later) :
    AddsDirectories before later where
  workingDirectory := hlater.workingDirectory.trans h.workingDirectory
  kept hold := hlater.kept (h.kept hold)
  added {place entry} hnone hsome := by
    cases hmid : after.get? place with
    | none => exact hlater.added hmid hsome
    | some found =>
      rw [h.added hnone hmid] at hmid
      exact Option.some.inj (hsome.symm.trans (hlater.kept hmid))

theorem toExtends (h : AddsDirectories before after) : Extends before after :=
  ⟨h.workingDirectory, h.kept⟩

theorem keepsDirectories (h : AddsDirectories before after) : KeepsDirectories before after :=
  h.toExtends.keepsDirectories

/-- The files are the same. -/
theorem fileAt?_eq (h : AddsDirectories before after) :
    after.fileAt? place = before.fileAt? place := by
  unfold fileAt?
  cases hbefore : before.get? place with
  | some entry => rw [h.kept hbefore]
  | none =>
    cases hafter : after.get? place with
    | none => rfl
    | some entry => rw [h.added hbefore hafter]

/-- A new directory in a directory. -/
theorem put (hnone : tree.get? (place ++ [name]) = none) :
    AddsDirectories tree (tree.put (place ++ [name]) .directory) where
  workingDirectory := rfl
  kept := (Extends.put hnone).kept
  added {other entry} hother hsome := by
    rw [get?_put (by simp)] at hsome
    split at hsome
    · exact (Option.some.inj hsome).symm
    · rw [hother] at hsome
      cases hsome

end AddsDirectories

/-! ### Directories -/

theorem WellFormed.startOf (h : tree.WellFormed) :
    tree.get? (tree.startOf path) = some .directory := by
  unfold FileTree.startOf
  split
  · rfl
  · exact h.start

theorem WellFormed.dropLast (h : tree.WellFormed) (hstart : tree.get? start = some .directory) :
    tree.get? start.dropLast = some .directory := by
  cases start using List.reverseRecOn with
  | nil => rfl
  | append_singleton start name =>
    rw [List.dropLast_concat]
    exact h.above hstart

/-- What can be reached from a directory is a directory or lies in one. -/
theorem WellFormed.follow_goal (h : tree.WellFormed) (hstart : tree.get? start = some .directory)
    (hfollow : tree.follow start pieces = .ok goal) :
    tree.get? goal = some .directory ∨
      ∃ place name, goal = place ++ [name] ∧ tree.get? place = some .directory := by
  induction pieces generalizing start with
  | nil => exact .inl (Except.ok.inj hfollow ▸ hstart)
  | cons piece pieces ih =>
    obtain ⟨-, ⟨-, hrest⟩ | ⟨-, hrest⟩ | ⟨-, -, -, hrest⟩⟩ := follow_cons hfollow
    · exact ih hstart hrest
    · exact ih (h.dropLast hstart) hrest
    · cases pieces with
      | nil => exact .inr ⟨start, piece, (Except.ok.inj hrest).symm, hstart⟩
      | cons next pieces => exact ih (follow_cons hrest).1 hrest

/-- What a path names lies in a directory, unless it is one. -/
theorem WellFormed.exists_folder (h : tree.WellFormed) (hlocate : tree.locate path = .ok goal)
    (hgoal : tree.get? goal ≠ some .directory) :
    ∃ place name, goal = place ++ [name] ∧ tree.get? place = some .directory :=
  (h.follow_goal h.startOf (locate_eq_ok.mp hlocate).2.2).resolve_left hgoal

/-- Making directories adds nothing else and takes nothing away, also if it fails on the way. -/
theorem makeDirectories_adds (h : tree.WellFormed) (hstart : tree.get? start = some .directory) :
    (tree.makeDirectories start pieces).1.WellFormed ∧
      AddsDirectories tree (tree.makeDirectories start pieces).1 := by
  induction pieces generalizing tree start with
  | nil => exact ⟨h, .refl tree⟩
  | cons piece pieces ih =>
    rw [makeDirectories]
    split
    · exact ih h hstart
    · split
      · exact ih h (h.dropLast hstart)
      · simp only
        split
        · exact ⟨h, .refl tree⟩
        · split
          · rename_i hthere
            exact ih h hthere
          · exact ⟨h, .refl tree⟩
          · -- the directory is new, and what is left is made below it
            rename_i hnone
            have hmade : (tree.put (start ++ [piece]) .directory).WellFormed :=
              h.put hstart fun _ => rfl
            have hthere : (tree.put (start ++ [piece]) .directory).get? (start ++ [piece]) =
                some .directory := by
              rw [get?_put (by simp), if_pos rfl]
            obtain ⟨hformed, hadds⟩ := ih hmade hthere
            exact ⟨hformed, (AddsDirectories.put hnone).trans hadds⟩

/-- The same of a directory that is to be made at any path. -/
theorem apply_makeDirectory_adds (h : tree.WellFormed) (now : Nat) :
    (tree.apply now (.makeDirectory path)).1.WellFormed ∧
      AddsDirectories tree (tree.apply now (.makeDirectory path)).1 := by
  simp only [apply]
  -- an empty path and one with a null character are refused
  split
  · exact ⟨h, .refl tree⟩
  · split
    · exact ⟨h, .refl tree⟩
    · exact makeDirectories_adds h h.startOf

theorem applyPartly_makeDirectory_adds (h : tree.WellFormed) (now made : Nat) :
    (tree.applyPartly now made (.makeDirectory path)).WellFormed ∧
      AddsDirectories tree (tree.applyPartly now made (.makeDirectory path)) := by
  simp only [applyPartly]
  split
  · exact ⟨h, .refl tree⟩
  · exact makeDirectories_adds h h.startOf

/-! ### Moved files -/

/-- No directory disappears when a file moves to where none is. -/
theorem KeepsDirectories.relocate (h : tree.WellFormed) {file : ByteArray × Nat}
    (hfile : tree.fileAt? origin = some file) (hne : origin ≠ place ++ [name])
    (hfree : tree.get? (place ++ [name]) ≠ some .directory) :
    KeepsDirectories tree (tree.relocate origin (place ++ [name])) where
  workingDirectory := by
    unfold FileTree.relocate
    split <;> rfl
  directory {other} hother := by
    have hget := fileAt?_eq_some.mp hfile
    rw [get?_relocate h hget hne (by simp), if_neg, if_neg]
    · exact hother
    · rintro rfl
      rw [hget] at hother
      cases hother
    · rintro rfl
      exact hfree hother

/-- A file that is moved into a directory leaves a well-formed tree. -/
theorem WellFormed.relocate (h : tree.WellFormed) {file : ByteArray × Nat}
    (hfile : tree.fileAt? origin = some file) (hne : origin ≠ place ++ [name])
    (hplace : tree.get? place = some .directory)
    (hfree : tree.get? (place ++ [name]) ≠ some .directory) :
    (tree.relocate origin (place ++ [name])).WellFormed := by
  have hkeeps := KeepsDirectories.relocate h hfile hne hfree
  refine ⟨fun {other n found} hfound => hkeeps.directory ?_, ?_⟩
  · rw [get?_relocate h (fileAt?_eq_some.mp hfile) hne (by simp)] at hfound
    split at hfound
    · rename_i heq
      rw [(List.append_inj' heq rfl).1]
      exact hplace
    · split at hfound
      · cases hfound
      · exact h.above hfound
  · rw [hkeeps.workingDirectory]
    exact hkeeps.directory h.start

/-- A file is moved to the place that its target names, where no directory is. -/
theorem moveEntry_file (hsource : tree.locate source = .ok origin)
    (hfile : tree.get? origin = some (.file content modified))
    (hmove : tree.moveEntry source target = .ok after) :
    ∃ goal, tree.locate target = .ok goal ∧ tree.get? goal ≠ some .directory ∧
      after = tree.relocate origin goal := by
  have hentry := entryAt_eq_ok.mpr ⟨hsource, hfile⟩
  unfold moveEntry at hmove
  cases hgoal : tree.locate target with
  | error e => simp [hentry, hgoal, Bind.bind, Except.bind] at hmove
  | ok goal =>
    simp only [hentry, hgoal, Bind.bind, Except.bind] at hmove
    refine ⟨goal, rfl, ?_⟩
    split at hmove
    · -- a file that is moved to itself stays
      rename_i heq
      rw [← heq, hfile]
      refine ⟨by simp, ?_⟩
      rw [← Except.ok.inj hmove, relocate, if_pos rfl]
    · split at hmove
      · rename_i hcontra
        cases hcontra
      · cases hmove
      · rename_i hother
        exact ⟨hother, (Except.ok.inj hmove).symm⟩

end MediaShelf.FileTree
