import Mathlib.Data.Set.List
import MediaShelf.Proofs.FileTree.Listing
import MediaShelf.Proofs.Store.RecordFolder
import MediaShelf.Proofs.Store.StoredName
import MediaShelf.Record.Codec

/-!
# Removals by a start

Records are removed by what their identifiers start with, but all that a folder knows of identifiers
are the names of its files. Names are made character by character, so every identifier with the
start is reached; an identifier without it is reached only if its name has the name of the start.

The invariant is that nothing but files of identifiers comes into a folder that was empty, also when
changes fail. A removal that nothing outside the folder hinders takes out one file for each name
that led to something before and leads to nothing any more.

## Main definitions

* `FolderChange`, `RecordFolder.after` — changes of a folder, and the disk after some of them
* `RecordFolder.OnlyRecords` — the invariant

## Main results

* `RecordFolder.OnlyRecords.apply`, `RecordFolder.OnlyRecords.after` — one change, and any number
* `RecordFolder.OnlyRecords.mem_doomed_iff` — the files that a removal takes out
* `RecordFolder.OnlyRecords.removePrefixed_eq_ok` — a removal that nothing hinders
* `RecordFolder.removePrefixed_exact` — what is loaded after a removal, and what it returns
-/

namespace MediaShelf

/-- What changes a folder of records. -/
inductive FolderChange (α : Type) where
  | store (identifier : String) (value : α)
  | removePrefixed (start : String)

namespace RecordFolder

open FileTree (ChangesIn)

variable {α : Type} {folder : RecordFolder α} {place found : Location} {disk : Disk}
  {tree : FileTree} {identifier start : String} {file : List Char} {content : ByteArray}
  {modified : Nat}

/-- The disk after a change, whether or not that came to its end. -/
def apply (folder : RecordFolder α) (disk : Disk) : FolderChange α → Disk
  | .store identifier value => (folder.store identifier value disk).2
  | .removePrefixed start => (folder.removePrefixed start disk).2

/-- The disk after some changes. -/
def after (folder : RecordFolder α) (changes : List (FolderChange α)) (disk : Disk) : Disk :=
  changes.foldl folder.apply disk

/-- On a quiet disk no change is refused, nor is a later one. -/
theorem isQuiet_apply (h : disk.IsQuiet) (change : FolderChange α) :
    (folder.apply disk change).IsQuiet := by
  cases change with
  | store identifier value =>
    rw [apply, store_eq]
    exact h.perform _
  | removePrefixed start =>
    exact removePrefixed_keeps Disk.IsQuiet (fun _ _ hquiet => hquiet.perform _) folder start h

theorem isQuiet_after (h : disk.IsQuiet) (changes : List (FolderChange α)) :
    (folder.after changes disk).IsQuiet := by
  induction changes generalizing disk with
  | nil => exact h
  | cons change changes ih => exact ih (isQuiet_apply h change)

/-- The folder is the directory at the place, and nothing but files of identifiers is in it. No
place is listed twice. -/
structure OnlyRecords (folder : RecordFolder α) (place : Location) (tree : FileTree) : Prop where
  formed : tree.WellFormed
  distinct : (tree.entries.map (·.1)).Nodup
  locate : tree.locate folder.path = .ok place
  directory : tree.get? place = some .directory
  records : ∀ {name entry}, tree.get? (place ++ [name]) = some entry →
    FileTree.nameSize name ≤ FileTree.nameLimit ∧
      ∃ identifier content modified, name = fileName identifier ∧ entry = .file content modified

namespace OnlyRecords

/-! ### Changes -/

theorem openAt (h : folder.OnlyRecords place tree) : folder.OpenAt place tree := by
  refine ⟨h.formed, h.locate, h.directory, fun {name entry} hentry => ?_⟩
  obtain ⟨-, identifier, -, -, rfl, -⟩ := h.records hentry
  exact isFileName_fileName identifier

/-- How long records live does not matter to what is in the folder. -/
theorem withoutLimit (h : folder.OnlyRecords place tree) :
    { folder with ttl := none }.OnlyRecords place tree :=
  ⟨h.formed, h.distinct, h.locate, h.directory, h.records⟩

/-- An empty directory holds nothing else than records. -/
theorem of_children (hformed : tree.WellFormed) (hdistinct : (tree.entries.map (·.1)).Nodup)
    (hempty : tree.children folder.path = .ok []) : ∃ place, folder.OnlyRecords place tree := by
  obtain ⟨place, hlocate, hdirectory, hnames⟩ := FileTree.children_eq_ok.mp hempty
  refine ⟨place, hformed, hdistinct, hlocate, hdirectory, fun {name entry} hentry => ?_⟩
  have hmem := FileTree.mem_childNames.mpr (Option.isSome_of_eq_some hentry)
  rw [hnames] at hmem
  cases hmem

/-- Taking a file away, wherever it is, puts nothing into the folder. -/
theorem remove (h : folder.OnlyRecords place tree)
    (hfile : tree.get? found = some (.file content modified)) :
    folder.OnlyRecords place (tree.remove found) := by
  have hfree : tree.get? found ≠ some .directory := by simp [hfile]
  have hne : found ≠ [] := FileTree.ne_nil_of_not_directory hfree
  obtain ⟨parent, last, rfl⟩ : ∃ parent last, found = parent ++ [last] :=
    ⟨_, _, (List.dropLast_concat_getLast hne).symm⟩
  have hchange := ChangesIn.remove h.formed hfile
  refine ⟨hchange.formed, FileTree.distinct_remove h.distinct, hchange.keeps.locate h.locate,
    hchange.keeps.directory h.directory, fun {name entry} hentry => ?_⟩
  rw [FileTree.get?_remove hne] at hentry
  split at hentry
  · cases hentry
  · exact h.records hentry

/-- Storing a record puts the file of its identifier into the folder, or nothing. -/
theorem store (h : folder.OnlyRecords place disk.tree) (identifier : String) (value : α) :
    folder.OnlyRecords place (folder.store identifier value disk).2.tree := by
  obtain htree | ⟨hsize, hfree, htree⟩ := h.openAt.tree_store identifier value
  · rwa [htree]
  · rw [htree]
    generalize (Json.write (folder.codec.toJson value)).toUTF8 = content
    have hchange : ChangesIn place disk.tree
        (disk.tree.put (place ++ [fileName identifier]) (.file content disk.now)) :=
      ChangesIn.put h.formed h.directory hfree
    refine ⟨hchange.formed, FileTree.distinct_put h.distinct, hchange.keeps.locate h.locate,
      hchange.keeps.directory h.directory, fun {name entry} hentry => ?_⟩
    rw [FileTree.get?_put (by simp)] at hentry
    split at hentry
    · -- the file is the one that was written
      rename_i hname
      obtain rfl : name = fileName identifier := by simpa using hname
      exact ⟨hsize, identifier, content, disk.now, rfl, (Option.some.inj hentry).symm⟩
    · exact h.records hentry

/-- What one change leaves. -/
theorem apply (h : folder.OnlyRecords place disk.tree) (change : FolderChange α) :
    folder.OnlyRecords place (folder.apply disk change).tree := by
  cases change with
  | store identifier value => exact h.store identifier value
  | removePrefixed start =>
    refine removePrefixed_keeps (folder.OnlyRecords place ·.tree) ?_ folder start h
    exact FileTree.perform_removeFile_keeps (folder.OnlyRecords place)
      fun _ _ _ _ hkept => hkept.remove

/-- What any changes leave. -/
theorem after (h : folder.OnlyRecords place disk.tree) (changes : List (FolderChange α)) :
    folder.OnlyRecords place (folder.after changes disk).tree := by
  induction changes generalizing disk with
  | nil => exact h
  | cons change changes ih => exact ih (h.apply change)

/-! ### Files that are removed -/

/-- Nothing is loaded exactly where there is no file. -/
theorem load_eq_none_iff (h : folder.OnlyRecords place disk.tree) (httl : folder.ttl = none) :
    folder.load disk identifier = .ok none ↔
      disk.tree.get? (place ++ [fileName identifier]) = none := by
  rw [load_eq h.openAt httl]
  cases hentry : disk.tree.get? (place ++ [fileName identifier]) with
  | none => simp [decode]
  | some entry =>
    -- a file that is there is read, or that fails
    obtain ⟨hsize, -, content, modified, -, rfl⟩ := h.records hentry
    rw [if_neg (Nat.not_lt.mpr hsize)]
    simp only [decode, reduceCtorEq, iff_false]
    split
    · simp
    · split <;> simp

/-- A removal takes out the files of identifiers whose names start so and that lead to something. -/
theorem mem_doomed_iff (h : folder.OnlyRecords place disk.tree) (httl : folder.ttl = none) :
    file ∈ doomed start (disk.tree.childNames place) ↔
      ∃ identifier, fileName identifier = file ∧
        storedName start.toList <+: storedName identifier.toList ∧
        folder.load disk identifier ≠ .ok none := by
  rw [mem_doomed, FileTree.mem_childNames]
  constructor
  · rintro ⟨hthere, hstart, -⟩
    obtain ⟨entry, hentry⟩ := Option.isSome_iff_exists.mp hthere
    obtain ⟨-, identifier, content, modified, rfl, -⟩ := h.records hentry
    refine ⟨identifier, rfl, storedName_isPrefix_fileName_iff.mp hstart, ?_⟩
    rw [ne_eq, h.load_eq_none_iff httl, hentry]
    simp
  · rintro ⟨identifier, rfl, hstart, hload⟩
    rw [ne_eq, h.load_eq_none_iff httl, ← ne_eq, Option.ne_none_iff_isSome] at hload
    exact ⟨hload, storedName_isPrefix_fileName_iff.mpr hstart, List.suffix_append _ _⟩

theorem nodup_doomed (h : folder.OnlyRecords place tree) (start : String) :
    (doomed start (tree.childNames place)).Nodup :=
  (FileTree.nodup_childNames h.distinct place).filter _

/-- Different files of the folder are all removed, as long as nothing outside hinders it. -/
theorem removeAll_eq_ok (h : folder.OnlyRecords place disk.tree) (hquiet : disk.IsQuiet)
    {names : List (List Char)} (hnodup : names.Nodup)
    (hthere : ∀ name ∈ names, (disk.tree.get? (place ++ [name])).isSome) :
    (removeAll (names.map folder.path.push) disk).1 = .ok names.length := by
  induction names generalizing disk with
  | nil => rfl
  | cons first names ih =>
    obtain ⟨hnew, hnodup⟩ := List.nodup_cons.mp hnodup
    obtain ⟨entry, hentry⟩ := Option.isSome_iff_exists.mp (hthere first List.mem_cons_self)
    obtain ⟨hsize, identifier, content, modified, hfirst, rfl⟩ := h.records hentry
    have hlocate : disk.tree.locate (folder.path.push first) = .ok (place ++ [first]) := by
      rw [h.openAt.locate_push (hfirst ▸ isFileName_fileName identifier),
        if_neg (Nat.not_lt.mpr hsize)]
    obtain ⟨hdone, htree⟩ :=
      FileTree.perform_removeFile_of_file (hquiet _ (Nat.le_refl _)) hlocate hentry
    have hlater := hquiet.perform (.removeFile (folder.path.push first))
    rw [List.map_cons, removeAll_cons]
    generalize Disk.perform (.removeFile (folder.path.push first)) disk = performed
      at hdone htree hlater ⊢
    obtain ⟨answer, next⟩ := performed
    obtain rfl : answer = .ok () := hdone
    -- the other files are still there, since they have other names
    have hrest : (removeAll (names.map folder.path.push) next).1 = .ok names.length := by
      refine ih (htree ▸ h.remove hentry) hlater hnodup fun name hname => ?_
      rw [htree, FileTree.get?_remove (by simp), if_neg]
      · exact hthere name (List.mem_cons_of_mem _ hname)
      · intro hsame
        obtain rfl : name = first := by simpa using hsame
        exact hnew hname
    simp [hrest, Except.map]

/-- A removal by a start removes all files that it takes out, and returns their number. -/
theorem removePrefixed_eq_ok (h : folder.OnlyRecords place disk.tree) (hquiet : disk.IsQuiet)
    (start : String) :
    (folder.removePrefixed start disk).1 =
      .ok (doomed start (disk.tree.childNames place)).length := by
  rw [removePrefixed_eq, h.openAt.children_eq]
  refine h.removeAll_eq_ok hquiet (h.nodup_doomed start) fun name hname => ?_
  exact FileTree.mem_childNames.mp (mem_doomed.mp hname).1

/-- The number that is returned is that of the files that are taken out. -/
theorem length_of_removePrefixed (h : folder.OnlyRecords place disk.tree) {count : Nat}
    (hremoved : (folder.removePrefixed start disk).1 = .ok count) :
    count = (doomed start (disk.tree.childNames place)).length := by
  rw [removePrefixed_eq, h.openAt.children_eq] at hremoved
  simpa using length_of_removeAll hremoved

/-- The files that a removal takes out are told by their names without the suffix. -/
theorem exists_removedNames (h : folder.OnlyRecords place disk.tree) (httl : folder.ttl = none)
    (start : String) : ∃ names : List (List Char),
      names.map (· ++ recordSuffix) = doomed start (disk.tree.childNames place) ∧ names.Nodup ∧
        ∀ name, name ∈ names ↔ ∃ identifier : String, storedName identifier.toList = name ∧
          storedName start.toList <+: storedName identifier.toList ∧
          folder.load disk identifier ≠ .ok none := by
  obtain ⟨names, hnames⟩ : doomed start (disk.tree.childNames place) ∈
      Set.range (List.map (· ++ recordSuffix)) := by
    rw [Set.range_list_map]
    intro file hfile
    obtain ⟨identifier, rfl, -⟩ := (h.mem_doomed_iff httl).mp hfile
    exact ⟨storedName identifier.toList, rfl⟩
  refine ⟨names, hnames, ?_, fun name => ?_⟩
  · apply List.Nodup.of_map (· ++ recordSuffix)
    rw [hnames]
    exact h.nodup_doomed start
  · have hmem : name ∈ names ↔
        name ++ recordSuffix ∈ doomed start (disk.tree.childNames place) := by
      rw [← hnames, List.mem_map_of_injective (List.append_left_injective recordSuffix)]
    simp only [hmem, h.mem_doomed_iff httl, fileName, List.append_cancel_right_eq]

/-- A removal by a start that comes to its end. -/
theorem removePrefixed (h : folder.OnlyRecords place disk.tree) (httl : folder.ttl = none)
    {count : Nat} (hremoved : (folder.removePrefixed start disk).1 = .ok count) :
    let next := (folder.removePrefixed start disk).2
    (∀ identifier, folder.load next identifier =
      if storedName start.toList <+: storedName identifier.toList then .ok none
      else folder.load disk identifier) ∧
    ∃ names : List (List Char), names.Nodup ∧ names.length = count ∧
      ∀ name, name ∈ names ↔ ∃ identifier : String, storedName identifier.toList = name ∧
        folder.load disk identifier ≠ .ok none ∧ folder.load next identifier = .ok none := by
  intro next
  obtain ⟨-, -, hload⟩ := load_removePrefixed h.openAt httl hremoved
  simp only [storedName_isPrefix_fileName_iff] at hload
  refine ⟨hload, ?_⟩
  obtain ⟨names, hfiles, hnodup, hnames⟩ := h.exists_removedNames httl start
  refine ⟨names, hnodup, ?_, fun name => ?_⟩
  · rw [h.length_of_removePrefixed hremoved, ← hfiles, List.length_map]
  · rw [hnames]
    refine exists_congr fun identifier => and_congr_right fun _ => ?_
    rw [hload]
    by_cases hstart : storedName start.toList <+: storedName identifier.toList
    · simp [hstart]
    · -- what is there to be loaded stays so without the start
      simp [hstart]

end OnlyRecords

/-- After any changes of a folder that was empty, some of which may have failed, a removal by a
start comes to its end if nothing outside the folder hinders it. If it does and no record becomes
too old, nothing is loaded from then on under identifiers whose names start with that of the start,
which all identifiers with the start do; the others load what they loaded before. The number that is
returned is that of the names that led to something before and do no more. -/
theorem removePrefixed_exact {folder : RecordFolder α} {disk : Disk}
    (hformed : disk.tree.WellFormed) (hdistinct : (disk.tree.entries.map (·.1)).Nodup)
    (hempty : disk.tree.children folder.path = .ok []) (changes : List (FolderChange α))
    (start : String) :
    let reached := folder.after changes disk
    let removal := folder.removePrefixed start reached
    (reached.IsQuiet → ∃ count, removal.1 = .ok count) ∧
    ∀ count, removal.1 = .ok count → folder.IsCurrent reached → folder.IsCurrent removal.2 →
      (∀ identifier, folder.load removal.2 identifier =
        if storedName start.toList <+: storedName identifier.toList then .ok none
        else folder.load reached identifier) ∧
      (∀ identifier : String, start.toList <+: identifier.toList →
        folder.load removal.2 identifier = .ok none) ∧
      ∃ names : List (List Char), names.Nodup ∧ names.length = count ∧
        ∀ name, name ∈ names ↔ ∃ identifier : String, storedName identifier.toList = name ∧
          folder.load reached identifier ≠ .ok none ∧
          folder.load removal.2 identifier = .ok none := by
  intro reached removal
  obtain ⟨place, hbefore⟩ := OnlyRecords.of_children hformed hdistinct hempty
  have hreached : folder.OnlyRecords place reached.tree := hbefore.after changes
  refine ⟨fun hquiet => ⟨_, hreached.removePrefixed_eq_ok hquiet start⟩, ?_⟩
  intro count hremoved hcurrent hlater
  -- no record is too old, so all is as it is without a time to live
  obtain ⟨hload, hnames⟩ := hreached.withoutLimit.removePrefixed rfl hremoved
  simp only [hcurrent.load_eq, hlater.load_eq]
  refine ⟨hload, fun identifier hstart => ?_, hnames⟩
  exact (hload identifier).trans (if_pos (storedName_isPrefix hstart))

/-- Lowered, the start ends in the final form of a sigma, and an identifier that goes on behind it
does not have that form. Two of the three identifiers with the start share a name, so two files
go. -/
theorem removePrefixed_exact_sigma :
    let heat : Film := { sourceId := "tmdb", filmId := "949", title := "Heat" }
    let folder : RecordFolder Film := ⟨⟨['/', 'c']⟩, none, Film.codec⟩
    let disk : Disk := { tree := { entries := [([['c']], .directory)] } }
    let reached := folder.after [.store "ΣΑΣ/1" heat, .store "σας/1" heat, .store "ΣΑΣΑ" heat,
      .store "sas" heat] disk
    let removal := folder.removePrefixed "ΣΑΣ" reached
    ¬ Text.lowercase "ΣΑΣ".toList <+: Text.lowercase "ΣΑΣΑ".toList ∧
      reached.tree.hasEntry (folder.entryPath "ΣΑΣΑ") ∧ removal.1 = .ok 2 ∧
      folder.load removal.2 "ΣΑΣΑ" = .ok none ∧
      folder.load removal.2 "sas" = folder.load reached "sas" := by
  intro heat folder disk reached removal
  have hformed : disk.tree.WellFormed := by
    refine FileTree.wellFormed_of_entries ?_ rfl
    simp [disk, FileTree.get?]
  have hquiet : disk.IsQuiet := fun _ _ => rfl
  obtain ⟨hdone, hexact⟩ := @removePrefixed_exact Film folder disk hformed
    (List.nodup_singleton _) (by decide) [.store "ΣΑΣ/1" heat, .store "σας/1" heat,
      .store "ΣΑΣΑ" heat, .store "sas" heat] "ΣΑΣ"
  obtain ⟨count, hremoved⟩ := hdone (isQuiet_after hquiet _)
  obtain ⟨hload, hstart, -⟩ := hexact count hremoved (fun _ => rfl) fun _ => rfl
  refine ⟨by decide +kernel, by decide +kernel, by decide +kernel, hstart "ΣΑΣΑ" (by decide), ?_⟩
  exact (hload "sas").trans (if_neg (by decide +kernel))

end RecordFolder

end MediaShelf
