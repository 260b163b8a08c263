import MediaShelf.Proofs.FileTree.Folder
import MediaShelf.Proofs.FileTree.Walk

/-!
# Empty directories

An empty directory that is called by its name can be removed. Nothing else changes, but the
directory that it lay in may be empty afterwards.

## Main definitions

* `FileTree.EmptyAt` — there is a directory without anything in it
* `FileTree.LiesBelow` — one place is further down than another

## Main results

* `FileTree.perform_removeDirectory` — an empty directory is removed
* `FileTree.EmptyAt.of_remove` — what is empty after a directory was removed
-/

namespace MediaShelf

open MediaShelf.Path (IsName)

namespace FileTree

variable {tree : FileTree} {path parent : Path} {base place other : Location} {name : List Char}
  {disk : Disk}

/-- There is a directory at the place, and nothing is in it. -/
def EmptyAt (tree : FileTree) (place : Location) : Prop :=
  tree.get? place = some .directory ∧ ∀ name, tree.get? (place ++ [name]) = none

/-- The place is further down than the base. -/
def LiesBelow (base place : Location) : Prop := base <+: place ∧ place ≠ base

theorem liesBelow_append_iff {names : Location} : LiesBelow base (base ++ names) ↔ names ≠ [] := by
  simp [LiesBelow]

theorem LiesBelow.ne_nil (h : LiesBelow base place) : place ≠ [] := by
  rintro rfl
  exact h.2 (List.prefix_nil.mp h.1).symm

/-- Nothing is anywhere below an empty directory. -/
theorem EmptyAt.get?_below (h : tree.EmptyAt place) (hclosed : tree.Closed) {below : Location}
    (hbelow : below ≠ []) : tree.get? (place ++ below) = none := by
  obtain ⟨first, below, rfl⟩ := List.exists_cons_of_ne_nil hbelow
  rw [List.append_cons]
  by_cases hlast : below = []
  · rw [hlast, List.append_nil, h.2]
  · cases hentry : tree.get? (place ++ [first] ++ below) with
    | none => rfl
    | some entry =>
      -- the first name below the place would be in it
      have hfirst := hclosed.directory_of_below below hlast hentry
      rw [h.2 first] at hfirst
      cases hfirst

theorem EmptyAt.hasChildren_eq_false (h : tree.EmptyAt place) (hclosed : tree.Closed) :
    tree.hasChildren place = false := by
  rw [hasChildren, List.any_eq_false]
  intro pair hpair hchild
  simp only [Bool.and_eq_true, List.isPrefixOf_iff_prefix, bne_iff_ne] at hchild
  obtain ⟨⟨below, hpath⟩, hne⟩ := hchild
  have hbelow : below ≠ [] := by
    rintro rfl
    exact hne (by rw [← hpath, List.append_nil])
  have hsome := isSome_lookup hpair
  rw [← get?_of_ne_nil (by simp [← hpath, hbelow]), ← hpath, h.get?_below hclosed hbelow] at hsome
  cases hsome

/-- A path whose directory has a name ends in that name. -/
theorem lastPiece?_of_parent? (h : path.parent? = some parent)
    (hlast : parent.components.getLast? = some (.name name)) : lastPiece? parent = some name := by
  obtain ⟨rest, -, hend⟩ := Path.pieces_parent? h hlast
  have hname : IsName name := Path.isName_of_mem_components (List.mem_of_getLast? hlast)
  obtain ⟨front, hfront⟩ := List.getLast?_eq_some_iff.mp hend
  simp [lastPiece?, hfront, hname.ne_nil]

/-- An empty directory that is called by its name is removed, unless something outside the tree
keeps it. -/
theorem perform_removeDirectory (hquiet : disk.refusal disk.now = none)
    (hclosed : disk.tree.Closed) (hlocate : disk.tree.locate path = .ok place) (hne : place ≠ [])
    (hempty : disk.tree.EmptyAt place) (hname : IsName name) (hlast : lastPiece? path = some name) :
    (Disk.perform (.removeDirectory path) disk).1 = .ok () ∧
      (Disk.perform (.removeDirectory path) disk).2.tree = disk.tree.remove place ∧
      (Disk.perform (.removeDirectory path) disk).2.refusal = disk.refusal := by
  have hdelete : disk.tree.deleteDirectory path = .ok (disk.tree.remove place) := by
    have hentry := entryAt_eq_ok.mpr ⟨hlocate, hempty.1⟩
    simp [deleteDirectory, hentry, Bind.bind, Except.bind, hne, hlast, hname.ne_here, hname.ne_up,
      hempty.hasChildren_eq_false hclosed, Pure.pure, Except.pure]
  simp [Disk.perform, hquiet, apply, hdelete, settle]

/-- A tree stays closed when an empty directory is removed. -/
theorem EmptyAt.closed_remove (h : tree.EmptyAt place) (hclosed : tree.Closed) (hne : place ≠ []) :
    (tree.remove place).Closed := by
  refine ⟨fun {other name entry} hentry => ?_⟩
  rw [get?_remove hne] at hentry ⊢
  split at hentry
  · cases hentry
  · rw [if_neg]
    · exact hclosed.above hentry
    · rintro rfl
      rw [h.2 name] at hentry
      cases hentry

/-- What is empty after a directory was removed was so before, or the directory lay in it. -/
theorem EmptyAt.of_remove (h : (tree.remove place).EmptyAt other) (hne : place ≠ []) :
    other ≠ place ∧ (tree.EmptyAt other ∨ other = place.dropLast) := by
  obtain ⟨hdirectory, hnone⟩ := h
  rw [get?_remove hne] at hdirectory
  split at hdirectory
  · cases hdirectory
  · rename_i hother
    refine ⟨hother, or_iff_not_imp_right.mpr fun hfolder => ⟨hdirectory, fun name => ?_⟩⟩
    have hchild := hnone name
    rwa [get?_remove hne, if_neg] at hchild
    rintro rfl
    exact hfolder List.dropLast_concat.symm

end FileTree

end MediaShelf
