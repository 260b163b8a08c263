import MediaShelf.Proofs.FileTree.Folder

/-!
# Lost and broken files

Files may go one by one, and the last write of a run may be broken off. As long as the directories
stay, every path goes on naming the place that it named, so what can be told apart afterwards is
what is at the places themselves.

## Main definitions

* `FileTree.SameDirectories` — two trees with the same directories
* `FileTree.LosesFiles` — a later tree that lacks some files of certain places
* `FileTree.LeftByWrite` — what a write that failed may leave

## Main results

* `FileTree.SameDirectories.locate_iff` — paths name the same places
* `FileTree.of_locate_push` — a name behind a path names an entry of the directory that the path
  names
* `FileTree.siblings_ne` — names behind one path name different places
-/

namespace MediaShelf.FileTree

variable {tree before after later : FileTree} {gone wider : Location → Prop} {path : Path}
  {place goal : Location} {name other : List Char} {content : ByteArray} {modified : Nat}

/-! ### The same directories -/

/-- The trees have the same directories. -/
structure SameDirectories (before after : FileTree) : Prop where
  workingDirectory : after.workingDirectory = before.workingDirectory
  directory : ∀ place, after.get? place = some .directory ↔ before.get? place = some .directory

namespace SameDirectories

theorem refl (tree : FileTree) : SameDirectories tree tree := ⟨rfl, fun _ => Iff.rfl⟩

theorem symm (h : SameDirectories before after) : SameDirectories after before :=
  ⟨h.workingDirectory.symm, fun place => (h.directory place).symm⟩

theorem trans (h : SameDirectories before after) (hlater : SameDirectories after later) :
    SameDirectories before later :=
  ⟨hlater.workingDirectory.trans h.workingDirectory,
    fun place => (hlater.directory place).trans (h.directory place)⟩

theorem keepsDirectories (h : SameDirectories before after) : KeepsDirectories before after :=
  ⟨h.workingDirectory, (h.directory _).mpr⟩

/-- Paths name the same places. -/
theorem locate_iff (h : SameDirectories before after) :
    after.locate path = .ok place ↔ before.locate path = .ok place :=
  ⟨h.symm.keepsDirectories.locate, h.keepsDirectories.locate⟩

/-- A file put where no directory is. -/
theorem put (hfree : tree.get? place ≠ some .directory) :
    SameDirectories tree (tree.put place (.file content modified)) := by
  refine ⟨rfl, fun other => ?_⟩
  rw [get?_put (ne_nil_of_not_directory hfree)]
  by_cases hother : other = place
  · rw [if_pos hother, hother]
    exact iff_of_false (by simp) hfree
  · rw [if_neg hother]

end SameDirectories

/-! ### Lost files -/

/-- The later tree is the earlier one without some files, all of which were at places in `gone`. -/
structure LosesFiles (gone : Location → Prop) (before after : FileTree) : Prop where
  workingDirectory : after.workingDirectory = before.workingDirectory
  entry : ∀ place, after.get? place = before.get? place ∨
    gone place ∧ (before.fileAt? place).isSome ∧ after.get? place = none

namespace LosesFiles

theorem refl (tree : FileTree) : LosesFiles gone tree tree := ⟨rfl, fun _ => .inl rfl⟩

theorem mono (h : LosesFiles gone before after) (hwider : ∀ place, gone place → wider place) :
    LosesFiles wider before after :=
  ⟨h.workingDirectory,
    fun place => (h.entry place).imp_right fun hgone => ⟨hwider _ hgone.1, hgone.2⟩⟩

theorem trans (h : LosesFiles gone before after) (hlater : LosesFiles gone after later) :
    LosesFiles gone before later := by
  refine ⟨hlater.workingDirectory.trans h.workingDirectory, fun place => ?_⟩
  obtain hsame | ⟨hgone, hfile, hnone⟩ := hlater.entry place
  · rw [hsame]
    exact h.entry place
  · obtain hsame | hearlier := h.entry place
    · -- what goes later was there from the start
      unfold fileAt? at hfile ⊢
      rw [hsame] at hfile
      exact .inr ⟨hgone, hfile, hnone⟩
    · unfold fileAt? at hfile
      rw [hearlier.2.2] at hfile
      cases hfile

/-- A file that is removed. -/
theorem remove (hfile : tree.get? place = some (.file content modified)) (hgone : gone place) :
    LosesFiles gone tree (tree.remove place) := by
  have hne : place ≠ [] := by
    rintro rfl
    cases hfile
  refine ⟨rfl, fun other => ?_⟩
  rw [get?_remove hne]
  by_cases hother : other = place
  · rw [if_pos hother, hother]
    exact .inr ⟨hgone, Option.isSome_of_eq_some (fileAt?_eq_some.mpr hfile), rfl⟩
  · rw [if_neg hother]
    exact .inl rfl

theorem sameDirectories (h : LosesFiles gone before after) : SameDirectories before after := by
  refine ⟨h.workingDirectory, fun place => ?_⟩
  obtain hsame | ⟨-, hfile, hnone⟩ := h.entry place
  · rw [hsame]
  · obtain ⟨file, hfile⟩ := Option.isSome_iff_exists.mp hfile
    rw [hnone, fileAt?_eq_some.mp hfile]
    simp

/-- Whatever is still there was there before. -/
theorem isSome (h : LosesFiles gone before after) (hsome : (after.get? place).isSome) :
    (before.get? place).isSome := by
  obtain hsame | ⟨-, -, hnone⟩ := h.entry place
  · rwa [hsame] at hsome
  · rw [hnone] at hsome
    cases hsome

end LosesFiles

/-! ### Broken writes -/

/-- What may be left of a tree when a file could not be written: the tree as it was, or the file
with a part of the content that was to be written. -/
inductive LeftByWrite (tree : FileTree) (path : Path) (content : ByteArray) : FileTree → Prop
  | untouched : LeftByWrite tree path content tree
  | brokenOff {place : Location} {size : Nat} (modified : Nat)
      (hlocate : tree.locate path = .ok place)
      (hfree : tree.get? place ≠ some .directory) (hsize : size < content.size) :
      LeftByWrite tree path content (tree.put place (.file (content.extract 0 size) modified))

theorem LeftByWrite.sameDirectories (h : LeftByWrite tree path content later) :
    SameDirectories tree later := by
  cases h with
  | untouched => exact .refl tree
  | brokenOff modified hlocate hfree hsize => exact .put hfree

/-! ### Names behind a path -/

/-- One name leads from a directory to its entry of that name. -/
theorem of_follow_name (hname : Path.IsName name) (h : tree.follow place [name] = .ok goal) :
    tree.get? place = some .directory ∧ goal = place ++ [name] := by
  obtain ⟨hdirectory, ⟨hskip, -⟩ | ⟨hup, -⟩ | ⟨-, -, -, hlast⟩⟩ := follow_cons h
  · simp [Path.counts, hname.ne_nil, hname.ne_here] at hskip
  · exact absurd hup hname.ne_up
  · exact ⟨hdirectory, (Except.ok.inj hlast).symm⟩

/-- A name behind a path with any text names an entry of the directory that the path names. -/
theorem of_locate_push (hname : Path.IsName name) (hempty : path.text ≠ [])
    (h : tree.locate (path.push name) = .ok goal) :
    ∃ folder, tree.locate path = .ok folder ∧ tree.get? folder = some .directory ∧
      goal = folder ++ [name] := by
  obtain ⟨-, hnull, hfollow⟩ := locate_eq_ok.mp h
  obtain ⟨front, -, hold, hnew⟩ := Path.pieces_push hname.no_slash hempty
  rw [startOf, Path.isAbsolute_push hname.no_slash, ← startOf, hnew, follow_append] at hfollow
  cases hfront : tree.follow (tree.startOf path) front with
  | error e => simp [hfront, Except.bind] at hfollow
  | ok folder =>
    rw [hfront] at hfollow
    obtain ⟨hdirectory, hgoal⟩ := of_follow_name hname hfollow
    refine ⟨folder, ?_, hdirectory, hgoal⟩
    have htext : '\x00' ∉ path.text := by
      rw [Path.push_eq hname.no_slash] at hnull
      split at hnull <;> exact fun hmem => hnull (List.mem_append_left _ hmem)
    refine locate_eq_ok.mpr ⟨hempty, htext, ?_⟩
    -- an empty piece at the end of the path led from the directory to itself
    rcases hold with hold | hold
    · rw [hold, hfront]
    · rw [hold, follow_append, hfront]
      exact follow_skip hdirectory rfl

/-- Different names behind one path name different places. -/
theorem siblings_ne (hname : Path.IsName name) (hother : Path.IsName other) (hne : name ≠ other)
    (h : tree.locate (path.push name) = .ok place)
    (hplace : tree.locate (path.push other) = .ok goal) : place ≠ goal := by
  obtain ⟨folder, rfl, rfl⟩ : ∃ folder, place = folder ++ [name] ∧ goal = folder ++ [other] := by
    by_cases hempty : path.text = []
    · -- behind a path without text a name stands alone
      have halone {piece : List Char} {found : Location} (hpiece : Path.IsName piece)
          (hfound : tree.locate (path.push piece) = .ok found) :
          found = tree.workingDirectory ++ [piece] := by
        have hpush : path.push piece = ⟨piece⟩ := by
          rw [Path.push_eq hpiece.no_slash, if_pos (.inl hempty), hempty, List.nil_append]
        obtain ⟨-, -, hfollow⟩ := locate_eq_ok.mp hfound
        rw [hpush, Path.pieces_name hpiece.no_slash, startOf,
          Path.isAbsolute_name hpiece.no_slash] at hfollow
        exact (of_follow_name hpiece hfollow).2
      exact ⟨_, halone hname h, halone hother hplace⟩
    · obtain ⟨folder, hfolder, -, hgoal⟩ := of_locate_push hname hempty h
      obtain ⟨same, hsame, -, hothergoal⟩ := of_locate_push hother hempty hplace
      obtain rfl : folder = same := Except.ok.inj (hfolder.symm.trans hsame)
      exact ⟨folder, hgoal, hothergoal⟩
  intro heq
  exact hne (by simpa using heq)

end MediaShelf.FileTree
