import Mathlib.Data.List.Infix
import Mathlib.Data.List.Nodup
import Mathlib.Data.List.Perm.Subperm
import MediaShelf.Proofs.FileTree.Folder

/-!
# The order of entries

A tree lists its entries in some order. Where each place is listed once, look-ups are the same for
every order, and a directory lists each of its names once.

## Main definitions

* `FileTree.Sound` — trees as disks have them
* `FileTree.SameEntries` — trees that differ in the order of their entries only

## Main results

* `FileTree.Sound.get?_eq` — look-ups do not depend on the order of the entries
* `FileTree.Closed.length_le` — no place lies deeper than there are entries
* `FileTree.nodup_childNames` — a directory lists each of its names once
* `FileTree.distinct_put`, `FileTree.distinct_remove` — no place comes to be listed twice
* `FileTree.Sound.locate_push` — the path of an entry leads to it
-/

namespace MediaShelf.FileTree

variable {tree listed : FileTree} {path : Path} {place folder : Location} {entry : Entry}
  {name : List Char}

/-- A name that a disk accepts and that can stand in a path. -/
structure IsEntryName (name : List Char) : Prop extends Path.IsName name where
  no_null : '\x00' ∉ name
  size_le : nameSize name ≤ nameLimit

/-- Everything lies in a directory, no place is listed twice, and all names are acceptable. -/
structure Sound (tree : FileTree) : Prop extends Closed tree where
  distinct : (tree.entries.map (·.1)).Nodup
  named : ∀ pair ∈ tree.entries, ∀ name ∈ pair.1, IsEntryName name

/-- The trees differ in the order of their entries only. -/
structure SameEntries (listed tree : FileTree) : Prop where
  entries : listed.entries.Perm tree.entries
  workingDirectory : listed.workingDirectory = tree.workingDirectory

instance (name : List Char) : Decidable (IsEntryName name) :=
  decidable_of_iff
    ((name ≠ [] ∧ name ≠ ['.'] ∧ name ≠ ['.', '.'] ∧ '/' ∉ name) ∧ '\x00' ∉ name ∧
      nameSize name ≤ nameLimit)
    ⟨fun h => ⟨⟨h.1.1, h.1.2.1, h.1.2.2.1, h.1.2.2.2⟩, h.2.1, h.2.2⟩,
      fun h => ⟨⟨h.ne_nil, h.ne_here, h.ne_up, h.no_slash⟩, h.no_null, h.size_le⟩⟩

/-- A tree is sound as soon as every entry that it lists is in order. -/
theorem sound_of_entries
    (habove : ∀ pair ∈ tree.entries, tree.get? pair.1.dropLast = some .directory)
    (hstart : tree.get? tree.workingDirectory = some .directory)
    (hdistinct : (tree.entries.map (·.1)).Nodup)
    (hnamed : ∀ pair ∈ tree.entries, ∀ name ∈ pair.1, IsEntryName name) : tree.Sound where
  above := (wellFormed_of_entries habove hstart).above
  distinct := hdistinct
  named := hnamed

/-! ### Places that are listed once -/

/-- Where no place is listed twice, a directory lists each of its names once. -/
theorem nodup_childNames (h : (tree.entries.map (·.1)).Nodup) (folder : Location) :
    (tree.childNames folder).Nodup := by
  have hplaces : tree.childNames folder = (tree.entries.map (·.1)).filterMap fun place =>
      if place.length = folder.length + 1 && folder.isPrefixOf place then place.getLast?
      else none := by
    rw [childNames, List.filterMap_map]
    rfl
  rw [hplaces]
  -- within a folder the last name tells the place
  refine h.filterMap ?_
  intro place other name hplace hother
  exact (childName_eq_some.mp hplace).trans (childName_eq_some.mp hother).symm

theorem distinct_put (h : (tree.entries.map (·.1)).Nodup) :
    ((tree.put place entry).entries.map (·.1)).Nodup := by
  have hnew : place ∉ (tree.entries.filter (·.1 != place)).map (·.1) := by
    simp
  rw [put, List.map_append, List.map_singleton, ← List.concat_eq_append, List.nodup_concat]
  exact ⟨hnew, h.sublist (List.filter_sublist.map _)⟩

theorem distinct_remove (h : (tree.entries.map (·.1)).Nodup) :
    ((tree.remove place).entries.map (·.1)).Nodup :=
  h.sublist (List.filter_sublist.map _)

/-! ### Depth -/

/-- The beginnings of a list are all different. -/
theorem nodup_inits {α : Type} (items : List α) : items.inits.Nodup := by
  induction items with
  | nil => simp
  | cons item items ih =>
    rw [List.inits_cons, List.nodup_cons]
    exact ⟨by simp, ih.map (List.cons_injective)⟩

/-- The places on the way to an entry are entries, so no place lies deeper than there are
entries. -/
theorem Closed.length_le (h : tree.Closed) (hentry : tree.get? place = some entry) :
    place.length ≤ tree.entries.length := by
  -- the beginnings of the place are entries, all but the empty one, and no two of them are the same
  have hlisted : place.inits ⊆ [] :: tree.entries.map (·.1) := by
    intro front hfront
    obtain ⟨rest, rfl⟩ := (List.mem_inits _ _).mp hfront
    by_cases hne : front = []
    · rw [hne]
      exact List.mem_cons_self
    · have hsome : (tree.get? front).isSome := by
        by_cases hrest : rest = []
        · rw [hrest, List.append_nil] at hentry
          simp [hentry]
        · simp [h.directory_of_below rest hrest hentry]
      rw [get?_of_ne_nil hne, List.lookup_isSome_iff] at hsome
      obtain ⟨pair, hpair, hkey⟩ := hsome
      exact List.mem_cons_of_mem _ (List.mem_map.mpr ⟨pair, hpair, (eq_of_beq hkey).symm⟩)
  have hlength := ((nodup_inits place).subperm hlisted).length_le
  rw [List.length_inits, List.length_cons, List.length_map] at hlength
  omega

/-! ### Trees that list the same entries -/

namespace SameEntries

theorem refl (tree : FileTree) : SameEntries tree tree := ⟨.refl _, rfl⟩

/-- Look-ups do not depend on the order of the entries. -/
theorem get?_eq (h : SameEntries listed tree) (hsound : tree.Sound) :
    listed.get? place = tree.get? place := by
  by_cases hne : place = []
  · rw [hne]
    rfl
  · have hdistinct := ((h.entries.map (·.1)).nodup_iff).mpr hsound.distinct
    -- where no place is listed twice, a look-up is a matter of membership
    ext entry
    rw [get?_of_ne_nil hne, get?_of_ne_nil hne, lookup_eq_some_iff_mem hdistinct,
      lookup_eq_some_iff_mem hsound.distinct, h.entries.mem_iff]

/-- A tree with its entries in another order is as sound as before. -/
theorem sound (h : SameEntries listed tree) (hsound : tree.Sound) : listed.Sound where
  above {place name entry} hentry := by
    rw [h.get?_eq hsound] at hentry ⊢
    exact hsound.above hentry
  distinct := ((h.entries.map (·.1)).nodup_iff).mpr hsound.distinct
  named pair hpair := hsound.named pair (h.entries.mem_iff.mp hpair)

theorem keepsDirectories (h : SameEntries listed tree) (hsound : tree.Sound) :
    KeepsDirectories tree listed where
  workingDirectory := h.workingDirectory
  directory hdirectory := by rwa [h.get?_eq hsound]

end SameEntries

/-! ### Names -/

namespace Sound

/-- The names on the way to an entry are acceptable. -/
theorem isEntryName (h : tree.Sound) (hentry : (tree.get? place).isSome) (hname : name ∈ place) :
    IsEntryName name := by
  rw [get?_of_ne_nil (List.ne_nil_of_mem hname), List.lookup_isSome_iff] at hentry
  obtain ⟨pair, hpair, hkey⟩ := hentry
  rw [eq_of_beq hkey] at hname
  exact h.named pair hpair name hname

/-- The path of an entry leads to it. -/
theorem locate_push (h : tree.Sound) (hlocate : tree.locate path = .ok folder)
    (hentry : tree.get? (folder ++ [name]) = some entry) :
    tree.locate (path.push name) = .ok (folder ++ [name]) := by
  have hname := h.isEntryName (Option.isSome_of_eq_some hentry) (List.mem_append_right folder
    List.mem_cons_self)
  rw [FileTree.locate_push hlocate (h.above hentry) hname.toIsName hname.no_null,
    if_neg (Nat.not_lt.mpr hname.size_le)]

end Sound

end MediaShelf.FileTree
