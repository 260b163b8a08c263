import Mathlib.Data.List.Induction
import MediaShelf.FileTree.Change
import MediaShelf.Proofs.Lookup

/-!
# Entries of file trees

Each change of the entries of a tree, as what it does to look-ups. In a well-formed tree everything
lies in a directory; nothing is below a file, so a file moves alone.

## Main definitions

* `FileTree.WellFormed`, `FileTree.Closed` — trees as file systems have them
* `FileTree.fileAt?` — the content and the time of a file

## Main results

* `FileTree.get?_put`, `FileTree.get?_remove`, `FileTree.get?_relocate` — entries after a change
* `FileTree.Closed.directory_of_below` — whatever has something below it is a directory
* `FileTree.fileAt?_relocate` — the files after one was moved
-/

namespace MediaShelf.FileTree

variable {tree : FileTree} {location place source target below : Location} {entry : Entry}
  {name : List Char} {content : ByteArray} {modified : Nat}

/-- Everything lies in a directory, and the working directory is one. -/
structure WellFormed (tree : FileTree) : Prop where
  above : ∀ {place name entry}, tree.get? (place ++ [name]) = some entry →
    tree.get? place = some .directory
  start : tree.get? tree.workingDirectory = some .directory

/-- Everything lies in a directory. -/
structure Closed (tree : FileTree) : Prop where
  above : ∀ {place name entry}, tree.get? (place ++ [name]) = some entry →
    tree.get? place = some .directory

/-- The content of the file at a location and the time of its last change. -/
def fileAt? (tree : FileTree) (place : Location) : Option (ByteArray × Nat) :=
  match tree.get? place with
  | some (.file content modified) => some (content, modified)
  | _ => none

theorem fileAt?_eq_some :
    tree.fileAt? place = some (content, modified) ↔
      tree.get? place = some (.file content modified) := by
  unfold fileAt?
  split <;> simp_all

/-! ### Look-ups after changes -/

theorem get?_of_ne_nil (h : place ≠ []) : tree.get? place = tree.entries.lookup place := by
  cases place with
  | nil => exact absurd rfl h
  | cons name place => rfl

theorem get?_put (h : location ≠ []) :
    (tree.put location entry).get? place =
      if place = location then some entry else tree.get? place := by
  by_cases hplace : place = location
  · subst hplace
    have hfilter : (tree.entries.filter (·.1 != place)).lookup place = none := by
      rw [lookup_filter tree.entries (· != place)]
      simp
    simp [get?_of_ne_nil h, put, List.lookup_append, hfilter]
  · rw [if_neg hplace]
    cases place with
    | nil => rfl
    | cons name place =>
      have hne : (name :: place == location) = false := by simpa using hplace
      have hfilter : (tree.entries.filter (·.1 != location)).lookup (name :: place) =
          tree.entries.lookup (name :: place) := by
        rw [lookup_filter tree.entries (· != location)]
        simp [bne, hne]
      simp only [get?, put, List.lookup_append, hfilter, List.lookup_cons, hne, List.lookup_nil,
        Option.or_none]

theorem get?_remove (h : location ≠ []) :
    (tree.remove location).get? place = if place = location then none else tree.get? place := by
  cases place with
  | nil => rw [if_neg (Ne.symm h)]; rfl
  | cons name place =>
    have hfilter := lookup_filter tree.entries (· != location) (name :: place)
    simp only [get?, remove]
    rw [hfilter]
    by_cases hplace : name :: place = location <;> simp [hplace]

/-! ### Well-formed trees -/

/-- A tree is well-formed as soon as every entry that it lists lies in a directory. -/
theorem wellFormed_of_entries
    (h : ∀ pair ∈ tree.entries, tree.get? pair.1.dropLast = some .directory)
    (hstart : tree.get? tree.workingDirectory = some .directory) : tree.WellFormed := by
  refine ⟨fun {place name entry} hentry => ?_, hstart⟩
  rw [get?_of_ne_nil (by simp)] at hentry
  obtain ⟨pair, hpair, hkey⟩ :=
    List.lookup_isSome_iff.mp (Option.isSome_iff_exists.mpr ⟨entry, hentry⟩)
  have hplace := h pair hpair
  rwa [← eq_of_beq hkey, List.dropLast_concat] at hplace

/-- Whatever has something below it is a directory. -/
theorem Closed.directory_of_below (h : tree.Closed) (below : Location) (hbelow : below ≠ [])
    (hentry : tree.get? (place ++ below) = some entry) : tree.get? place = some .directory := by
  -- the last name is taken off first: what it lies in is a directory
  induction below using List.reverseRecOn generalizing entry with
  | nil => exact absurd rfl hbelow
  | append_singleton below name ih =>
    rw [← List.append_assoc] at hentry
    have hdirectory := h.above hentry
    by_cases hempty : below = []
    · rwa [hempty, List.append_nil] at hdirectory
    · exact ih hempty hdirectory

namespace WellFormed

theorem closed (h : tree.WellFormed) : tree.Closed := ⟨h.above⟩

/-- Nothing is below a file. -/
theorem not_below_file (h : tree.WellFormed)
    (hfile : tree.get? place = some (.file content modified)) {pair : Location × Entry}
    (hpair : pair ∈ tree.entries) (hinitial : place <+: pair.1) :
    pair.1 = place := by
  obtain ⟨below, hbelow⟩ := hinitial
  by_cases hempty : below = []
  · rw [← hbelow, hempty, List.append_nil]
  · have hne : pair.1 ≠ [] := by
      rw [← hbelow]
      exact List.append_ne_nil_of_right_ne_nil _ hempty
    obtain ⟨entry, hentry⟩ := Option.isSome_iff_exists.mp (isSome_lookup hpair)
    rw [← get?_of_ne_nil hne, ← hbelow] at hentry
    rw [h.closed.directory_of_below below hempty hentry] at hfile
    cases hfile

/-- When a file moves, no location changes but its own. -/
theorem rebase_eq (h : tree.WellFormed)
    (hfile : tree.get? source = some (.file content modified)) {pair : Location × Entry}
    (hpair : pair ∈ tree.entries) :
    rebase source target pair.1 = if pair.1 = source then target else pair.1 := by
  by_cases hinitial : source <+: pair.1
  · rw [h.not_below_file hfile hpair hinitial]
    simp [rebase]
  · have hother : pair.1 ≠ source := by
      intro heq
      exact hinitial (heq ▸ List.prefix_refl source)
    simp [rebase, hinitial, hother]

/-- A new entry in a directory leaves a tree well-formed, unless it puts a file over a directory. -/
theorem put (h : tree.WellFormed) (hdirectory : tree.get? place = some .directory)
    (hkind : tree.get? (place ++ [name]) = some .directory → entry = .directory) :
    (tree.put (place ++ [name]) entry).WellFormed := by
  have hkept {other : Location} (hother : tree.get? other = some .directory) :
      (tree.put (place ++ [name]) entry).get? other = some .directory := by
    rw [get?_put (by simp)]
    split
    · rename_i heq
      rw [hkind (heq ▸ hother)]
    · exact hother
  refine ⟨fun {other n found} hfound => hkept ?_, hkept h.start⟩
  rw [get?_put (by simp)] at hfound
  split at hfound
  · rename_i heq
    rw [(List.append_inj' heq rfl).1]
    exact hdirectory
  · exact h.above hfound

end WellFormed

/-- A move takes what is at the target away and gives the file the target as its place. -/
theorem entries_relocate (hne : source ≠ target) :
    (tree.relocate source target).entries =
      (tree.entries.filter (·.1 != target)).map fun pair =>
        (rebase source target pair.1, pair.2) := by
  rw [relocate, if_neg hne]

/-- The entries that a move keeps are not at the target, and all but the file keep their places. -/
theorem rebase_of_mem_filter (h : tree.WellFormed)
    (hfile : tree.get? source = some (.file content modified)) :
    ∀ pair ∈ tree.entries.filter (·.1 != target),
      pair.1 ≠ target ∧ rebase source target pair.1 =
        if pair.1 = source then target else pair.1 := by
  intro pair hpair
  obtain ⟨hmem, hother⟩ := List.mem_filter.mp hpair
  exact ⟨by simpa using hother, h.rebase_eq hfile hmem⟩

/-- Whatever was at the target is gone, so only the file is found there. -/
theorem lookup_relocate_target (h : tree.WellFormed)
    (hfile : tree.get? source = some (.file content modified)) (hne : source ≠ target)
    (hsource : source ≠ []) :
    (tree.relocate source target).entries.lookup target = some (.file content modified) := by
  rw [entries_relocate hne, lookup_map_key source, lookup_filter tree.entries (· != target),
    ← get?_of_ne_nil hsource, hfile]
  · simp [hne]
  · intro pair hpair
    obtain ⟨hother, hrebased⟩ := rebase_of_mem_filter h hfile pair hpair
    rw [hrebased]
    split
    · rename_i heq
      exact iff_of_true rfl heq
    · rename_i heq
      exact iff_of_false hother heq

theorem lookup_relocate_source (h : tree.WellFormed)
    (hfile : tree.get? source = some (.file content modified)) (hne : source ≠ target) :
    (tree.relocate source target).entries.lookup source = none := by
  rw [entries_relocate hne, List.lookup_eq_none_iff]
  intro moved hmoved
  obtain ⟨pair, hpair, rfl⟩ := List.mem_map.mp hmoved
  obtain ⟨-, hrebased⟩ := rebase_of_mem_filter h hfile pair hpair
  rw [hrebased, bne_iff_ne]
  split
  · exact hne
  · rename_i hother
    exact Ne.symm hother

theorem lookup_relocate_other (h : tree.WellFormed)
    (hfile : tree.get? source = some (.file content modified)) (hne : source ≠ target)
    (htarget : place ≠ target) (hsource : place ≠ source) :
    (tree.relocate source target).entries.lookup place = tree.entries.lookup place := by
  rw [entries_relocate hne, lookup_map_key place, lookup_filter tree.entries (· != target)]
  · simp [htarget]
  · intro pair hpair
    obtain ⟨-, hrebased⟩ := rebase_of_mem_filter h hfile pair hpair
    rw [hrebased]
    split
    · rename_i heq
      rw [heq]
      exact iff_of_false (Ne.symm htarget) (Ne.symm hsource)
    · rfl

/-- A file that is moved is found at its target and nowhere else. -/
theorem get?_relocate (h : tree.WellFormed)
    (hfile : tree.get? source = some (.file content modified)) (hne : source ≠ target)
    (htarget : target ≠ []) :
    (tree.relocate source target).get? place =
      if place = target then some (.file content modified)
      else if place = source then none
      else tree.get? place := by
  have hsource : source ≠ [] := by
    rintro rfl
    cases hfile
  by_cases hroot : place = []
  · subst hroot
    rw [if_neg (Ne.symm htarget), if_neg (Ne.symm hsource)]
    rfl
  rw [get?_of_ne_nil hroot, get?_of_ne_nil hroot]
  split
  · rename_i heq
    rw [heq, lookup_relocate_target h hfile hne hsource]
  · rename_i hplace
    split
    · rename_i heq
      rw [heq, lookup_relocate_source h hfile hne]
    · rename_i hold
      exact lookup_relocate_other h hfile hne hplace hold

/-- The files after one of them was moved. -/
theorem fileAt?_relocate (h : tree.WellFormed) {file : ByteArray × Nat}
    (hfile : tree.fileAt? source = some file) (hne : source ≠ target) (htarget : target ≠ []) :
    (tree.relocate source target).fileAt? place =
      if place = target then some file
      else if place = source then none
      else tree.fileAt? place := by
  have hget : (tree.relocate source target).get? place =
      if place = target then some (.file file.1 file.2)
      else if place = source then none
      else tree.get? place :=
    get?_relocate h (fileAt?_eq_some.mp hfile) hne htarget
  unfold fileAt?
  rw [hget]
  by_cases hplace : place = target
  · rw [if_pos hplace, if_pos hplace]
  · rw [if_neg hplace, if_neg hplace]
    by_cases hold : place = source
    · rw [if_pos hold, if_pos hold]
    · rw [if_neg hold, if_neg hold]

end MediaShelf.FileTree
