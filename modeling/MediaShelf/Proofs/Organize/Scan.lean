import MediaShelf.Organize.Scan
import MediaShelf.Proofs.FileTree.Listing
import MediaShelf.Proofs.Path.Order

/-!
# What a search finds

A search goes down into directories until nothing is left, and the depth that it is given always
suffices. What it finds are the files that names below the root lead to, past no path that is
ignored. Each is found once, and sorting makes the order in which directories were listed
irrelevant.

## Main definitions

* `Path.below` — a path with names behind it
* `MediaDirectory.Finds` — names that lead to a media file past nothing that is ignored

## Main results

* `MediaDirectory.filesBelow_spec` — what a search below a directory gives
* `MediaDirectory.scan_finds_each_once` — what a search of a media directory gives
-/

namespace MediaShelf

/-- What succeeds for every item succeeds for all of them in a row. -/
theorem mapM_eq_ok {α β ε : Type} {items : List α} {f : α → Except ε β} {g : α → β}
    (h : ∀ a ∈ items, f a = .ok (g a)) : items.mapM f = .ok (items.map g) := by
  induction items with
  | nil => rfl
  | cons a items ih =>
    rw [List.mapM_cons, h a List.mem_cons_self, ih fun b hb => h b (List.mem_cons_of_mem a hb)]
    rfl

/-! ### Names behind a path -/

/-- The path with further names behind it. -/
def Path.below (path : Path) (names : Location) : Path := names.foldl Path.push path

@[simp] theorem Path.below_nil (path : Path) : path.below [] = path := rfl

@[simp] theorem Path.below_cons (path : Path) (name : List Char) (names : Location) :
    path.below (name :: names) = (path.push name).below names := rfl

theorem Path.components_below {path : Path} {names : Location} (h : ∀ name ∈ names, IsName name) :
    (path.below names).components = path.components ++ names.map .name := by
  induction names generalizing path with
  | nil => simp
  | cons name names ih =>
    rw [below_cons, ih fun other hother => h other (List.mem_cons_of_mem name hother),
      components_push (h name List.mem_cons_self), List.append_assoc]
    rfl

namespace MediaDirectory

variable {dir : MediaDirectory} {tree listed : FileTree} {looks : ByteArray → Bool}
  {path file : Path}
  {place names : Location} {name : List Char}

/-- The names lead from a path and its place to a file that has one of the extensions or starts like
a video, and nothing on the way is ignored, the file included. -/
structure Finds (dir : MediaDirectory) (tree : FileTree) (looks : ByteArray → Bool) (path : Path)
    (place names : Location) : Prop where
  media : ∃ content modified, tree.get? (place ++ names) = some (.file content modified) ∧
    (dir.acceptsExtension (path.below names) ∨ looks (signatureWindow content))
  kept : ∀ front, front ≠ [] → front <+: names → dir.isIgnored (path.below front) = false

namespace Finds

theorem isSome (h : dir.Finds tree looks path place names) :
    (tree.get? (place ++ names)).isSome := by
  obtain ⟨content, modified, hfile, -⟩ := h.media
  rw [hfile]
  rfl

/-- A directory is not what is searched for. -/
theorem ne_nil (h : dir.Finds tree looks path place names)
    (hdirectory : tree.get? place = some .directory) : names ≠ [] := by
  rintro rfl
  obtain ⟨content, modified, hfile, -⟩ := h.media
  rw [List.append_nil, hdirectory] at hfile
  cases hfile

/-- The first name on the way is not ignored, and the others go on from there. -/
theorem cons_iff :
    dir.Finds tree looks path place (name :: names) ↔
      dir.isIgnored (path.push name) = false ∧
        dir.Finds tree looks (path.push name) (place ++ [name]) names := by
  constructor
  · intro h
    refine ⟨h.kept [name] (by simp) (by simp), ?_, ?_⟩
    · simpa using h.media
    · intro front _ hfront
      exact h.kept (name :: front) (by simp) (by simpa using hfront)
  · intro h
    refine ⟨by simpa using h.2.media, ?_⟩
    intro front hne hfront
    cases front with
    | nil => exact absurd rfl hne
    | cons other front =>
      obtain ⟨rfl, hrest⟩ := List.cons_prefix_cons.mp hfront
      -- the way that ends at the first name is the one that is kept by itself
      by_cases hempty : front = []
      · rw [hempty]
        exact h.1
      · exact h.2.kept front hempty hrest

/-- At a place that is not a directory the search is over. -/
theorem eq_nil (h : dir.Finds tree looks path place names) (hclosed : tree.Closed)
    (hfile : tree.get? place ≠ some .directory) : names = [] := by
  by_contra hne
  obtain ⟨entry, hentry⟩ := Option.isSome_iff_exists.mp h.isSome
  exact hfile (hclosed.directory_of_below names hne hentry)

end Finds

/-- A file counts as a media file exactly if a search that starts at it finds it. -/
theorem isMediaFile_iff (hlocate : tree.locate path = .ok place) :
    dir.isMediaFile tree path looks ↔ dir.Finds tree looks path place [] := by
  have hkept (front : Location) (hne : front ≠ []) (hfront : front <+: []) :
      dir.isIgnored (path.below front) = false :=
    absurd (List.prefix_nil.mp hfront) hne
  rw [isMediaFile, Bool.and_eq_true, Bool.or_eq_true]
  constructor
  · intro h
    obtain ⟨other, content, modified, hother, hfile⟩ := FileTree.isFile_iff.mp h.1
    obtain rfl : place = other := Except.ok.inj (hlocate.symm.trans hother)
    rw [FileTree.readBytes_eq_ok.mpr ⟨place, modified, hlocate, hfile⟩] at h
    exact ⟨⟨content, modified, by rwa [List.append_nil], h.2⟩, hkept⟩
  · intro h
    obtain ⟨content, modified, hfile, hmedia⟩ := h.media
    rw [List.append_nil] at hfile
    rw [FileTree.readBytes_eq_ok.mpr ⟨place, modified, hlocate, hfile⟩]
    exact ⟨FileTree.isFile_iff.mpr ⟨place, content, modified, hlocate, hfile⟩, hmedia⟩

/-! ### Searching below a directory -/

/-- The files are those that names with a common front lead to from a path and its place, each
once. -/
structure AreFound (dir : MediaDirectory) (tree : FileTree) (looks : ByteArray → Bool) (path : Path)
    (place front : Location) (files : List Path) : Prop where
  distinct : (files.map Path.components).Nodup
  mem_iff : ∀ {file}, file ∈ files ↔ ∃ rest, file = path.below (front ++ rest) ∧
    dir.Finds tree looks path place (front ++ rest)

namespace AreFound

variable {front : Location} {files : List Path}

/-- Nothing is found behind a name that is ignored. -/
theorem ignored (h : dir.isIgnored (path.push name)) :
    dir.AreFound tree looks path place [name] [] where
  distinct := List.nodup_nil
  mem_iff := by
    intro file
    refine iff_of_false List.not_mem_nil ?_
    intro hfound
    obtain ⟨rest, -, hfinds⟩ := hfound
    rw [(Finds.cons_iff.mp hfinds).1] at h
    cases h

/-- At a place that is not a directory only a file in that place is found. -/
theorem single (hclosed : tree.Closed) (hlocate : tree.locate path = .ok place)
    (hfile : tree.get? place ≠ some .directory) :
    dir.AreFound tree looks path place [] (if dir.isMediaFile tree path looks then [path] else [])
    where
  distinct := by split <;> simp
  mem_iff := by
    intro file
    -- no name can stand behind a place that is not a directory
    have honly : (∃ rest, file = path.below ([] ++ rest) ∧
        dir.Finds tree looks path place ([] ++ rest)) ↔
        file = path ∧ dir.Finds tree looks path place [] := by
      constructor
      · intro h
        obtain ⟨rest, rfl, hfinds⟩ := h
        obtain rfl : rest = [] := hfinds.eq_nil hclosed hfile
        exact ⟨rfl, hfinds⟩
      · intro h
        exact ⟨[], h⟩
    rw [honly, ← isMediaFile_iff hlocate]
    split <;> simp_all

/-- What is found in an entry that is not ignored is found in its directory, behind its name. -/
theorem entry (hkept : dir.isIgnored (path.push name) = false)
    (h : dir.AreFound tree looks (path.push name) (place ++ [name]) [] files) :
    dir.AreFound tree looks path place [name] files where
  distinct := h.distinct
  mem_iff := by
    intro file
    rw [h.mem_iff]
    refine exists_congr fun rest => and_congr_right fun _ => ?_
    rw [List.singleton_append, Finds.cons_iff]
    exact (and_iff_right hkept).symm

/-- The components of what is found begin with those of the names that it was found behind. -/
theorem begins (h : dir.AreFound tree looks path place front files) (hsound : tree.Sound)
    (hfile : file ∈ files) : path.components ++ front.map .name <+: file.components := by
  obtain ⟨rest, rfl, hfinds⟩ := h.mem_iff.mp hfile
  rw [Path.components_below fun name hname =>
    (hsound.isEntryName hfinds.isSome (List.mem_append_right place hname)).toIsName,
    List.map_append, ← List.append_assoc]
  exact List.prefix_append _ _

/-- What is found in a directory is what is found behind the names that it lists. -/
theorem flatMap (hsound : tree.Sound) (hdirectory : tree.get? place = some .directory)
    {found : List Char → List Path}
    (h : ∀ name ∈ tree.childNames place, dir.AreFound tree looks path place [name] (found name)) :
    dir.AreFound tree looks path place [] ((tree.childNames place).flatMap found) where
  distinct := by
    rw [List.map_flatMap, List.nodup_flatMap]
    refine ⟨fun name hname => (h name hname).distinct, ?_⟩
    -- what is found behind different names differs in the component of that name
    refine (FileTree.nodup_childNames hsound.distinct place).imp_of_mem ?_
    intro name other hname hother hne
    apply List.disjoint_left.mpr
    intro components hcomponents hsame
    obtain ⟨file, hfile, rfl⟩ := List.mem_map.mp hcomponents
    obtain ⟨twin, htwin, hequal⟩ := List.mem_map.mp hsame
    have hbegins := (h name hname).begins hsound hfile
    have hbeginsToo := (h other hother).begins hsound htwin
    rw [hequal] at hbeginsToo
    have hfront := (List.prefix_of_prefix_length_le hbegins hbeginsToo (by simp)).eq_of_length
      (by simp)
    exact hne (by simpa using hfront)
  mem_iff := by
    intro file
    rw [List.mem_flatMap]
    constructor
    · intro hfile
      obtain ⟨name, hname, hfile⟩ := hfile
      obtain ⟨rest, hfound⟩ := (h name hname).mem_iff.mp hfile
      exact ⟨name :: rest, hfound⟩
    · intro hfound
      obtain ⟨names, hpath, hfinds⟩ := hfound
      cases names with
      | nil => exact absurd rfl (hfinds.ne_nil hdirectory)
      | cons name rest =>
        have hname : name ∈ tree.childNames place := by
          have hsome := (Finds.cons_iff.mp hfinds).2.isSome
          rw [FileTree.mem_childNames]
          obtain ⟨entry, hentry⟩ := Option.isSome_iff_exists.mp hsome
          by_cases hempty : rest = []
          · rw [hempty, List.append_nil] at hentry
            simp [hentry]
          · simp [hsound.directory_of_below rest hempty hentry]
        exact ⟨name, hname, (h name hname).mem_iff.mpr ⟨rest, hpath, hfinds⟩⟩

end AreFound

/-- What the entry under a name gives, if the search succeeds for the directories below. -/
theorem filesAt_spec (hsound : tree.Sound) (hlocate : tree.locate path = .ok place)
    (hname : name ∈ tree.childNames place) {below : Path → Except ScanError (List Path)}
    (hbelow : tree.locate (path.push name) = .ok (place ++ [name]) →
      tree.get? (place ++ [name]) = some .directory →
      ∃ files, below (path.push name) = .ok files ∧
        dir.AreFound tree looks (path.push name) (place ++ [name]) [] files) :
    ∃ files, dir.filesAt tree looks below (path.push name) = .ok files ∧
      dir.AreFound tree looks path place [name] files := by
  obtain ⟨entry, hentry⟩ := Option.isSome_iff_exists.mp (FileTree.mem_childNames.mp hname)
  have hplace := hsound.locate_push hlocate hentry
  by_cases hignored : dir.isIgnored (path.push name)
  · exact ⟨[], if_pos hignored, .ignored hignored⟩
  have hkept : dir.isIgnored (path.push name) = false := by simpa using hignored
  by_cases hfolder : tree.get? (place ++ [name]) = some .directory
  · obtain ⟨files, hfiles, hfound⟩ := hbelow hplace hfolder
    have hdirectory : tree.isDirectory (path.push name) :=
      FileTree.isDirectory_iff.mpr ⟨_, hplace, hfolder⟩
    refine ⟨files, ?_, .entry hkept hfound⟩
    rw [filesAt, if_neg hignored, if_pos hdirectory, hfiles]
  · have hdirectory : ¬tree.isDirectory (path.push name) := by
      intro h
      obtain ⟨other, hother, hget⟩ := FileTree.isDirectory_iff.mp h
      obtain rfl := Except.ok.inj (hplace.symm.trans hother)
      exact hfolder hget
    refine ⟨_, ?_, .entry hkept (.single hsound.toClosed hplace hfolder)⟩
    rw [filesAt, if_neg hignored, if_neg hdirectory]
    rfl

/-- A search below a directory succeeds and finds each media file there once, if it may go deeper
than there are entries. -/
theorem filesBelow_spec (dir : MediaDirectory) (looks : ByteArray → Bool) (hsound : tree.Sound)
    (hlocate : tree.locate path = .ok place) (hdirectory : tree.get? place = some .directory)
    {depth : Nat}
    (hdepth : tree.entries.length < place.length + depth) :
    ∃ files, dir.filesBelow tree looks depth path = .ok files ∧
      dir.AreFound tree looks path place [] files := by
  -- every level of directories takes one from the depth and adds a name to the place
  induction depth generalizing path place with
  | zero =>
    have := hsound.length_le hdirectory
    omega
  | succ depth ih =>
    have hentries : ∀ name ∈ tree.childNames place, ∃ files,
        dir.filesAt tree looks (dir.filesBelow tree looks depth) (path.push name) = .ok files ∧
          dir.AreFound tree looks path place [name] files := by
      intro name hname
      refine filesAt_spec hsound hlocate hname ?_
      intro hplace hfolder
      exact ih hplace hfolder (by rw [List.length_append, List.length_singleton]; omega)
    choose! found hok hfound using hentries
    refine ⟨(tree.childNames place).flatMap found, ?_, .flatMap hsound hdirectory hfound⟩
    have hchildren : tree.children path = .ok (tree.childNames place) := by
      rw [FileTree.children, FileTree.entryAt_eq_ok.mpr ⟨hlocate, hdirectory⟩]
      rfl
    rw [filesBelow, FileTree.isDirectory_iff.mpr ⟨place, hlocate, hdirectory⟩, hchildren]
    simp only [Except.mapError, Bind.bind, Except.bind]
    rw [mapM_eq_ok hok]
    rfl

/-! ### Searching a media directory -/

/-- A search of a media directory gives the paths of its media files in ascending order. -/
theorem scan_spec (dir : MediaDirectory) (looks : ByteArray → Bool) (hsound : tree.Sound)
    (hlocate : tree.locate dir.root = .ok place)
    (hdirectory : tree.get? place = some .directory) :
    ∃ files, dir.scan tree looks = .ok files ∧
      (∀ path, path ∈ files ↔
        ∃ names, path = dir.root.below names ∧ dir.Finds tree looks dir.root place names) ∧
      files.Pairwise fun a b => a.compare b = .lt := by
  have hdepth : tree.entries.length < place.length + (tree.entries.length + 1) := by omega
  obtain ⟨files, hfiles, hfound⟩ := filesBelow_spec dir looks hsound hlocate hdirectory hdepth
  refine ⟨_, ?_, ?_, Path.pairwise_sort hfound.distinct⟩
  · rw [scan, hfiles]
    rfl
  · intro path
    rw [(List.mergeSort_perm files _).mem_iff]
    exact hfound.mem_iff

/-- Which names lead to a media file does not depend on the order of the entries. -/
theorem finds_congr (h : listed.SameEntries tree) (hsound : tree.Sound) :
    dir.Finds listed looks path place names ↔ dir.Finds tree looks path place names := by
  constructor
  · intro hfinds
    exact ⟨h.get?_eq hsound ▸ hfinds.media, hfinds.kept⟩
  · intro hfinds
    exact ⟨(h.get?_eq hsound).symm ▸ hfinds.media, hfinds.kept⟩

/-- Below a root that is a directory, a search gives the same list for every order in which the
entries of the tree are listed: the paths of the files with an accepted extension or an accepted
start that no ignore pattern occurs in, nor in the path of a directory on the way, in strictly
ascending order. -/
theorem scan_finds_each_once (dir : MediaDirectory) (looks : ByteArray → Bool)
    (hsound : tree.Sound) (hlocate : tree.locate dir.root = .ok place)
    (hdirectory : tree.get? place = some .directory) :
    ∃ files : List Path,
      (∀ listed, listed.SameEntries tree → dir.scan listed looks = .ok files) ∧
      (∀ path, path ∈ files ↔
        ∃ names, path = dir.root.below names ∧ dir.Finds tree looks dir.root place names) ∧
      files.Pairwise fun a b => a.compare b = .lt := by
  obtain ⟨files, -, hmem, hascending⟩ := scan_spec dir looks hsound hlocate hdirectory
  refine ⟨files, ?_, hmem, hascending⟩
  intro listed hsame
  obtain ⟨others, hothers, hmemToo, hascendingToo⟩ := scan_spec dir looks
    (hsame.sound hsound) ((hsame.keepsDirectories hsound).locate hlocate)
    ((hsame.get?_eq hsound).trans hdirectory)
  -- there is only one way to put the same paths in ascending order
  have hequal : others = files := by
    refine Path.eq_of_ascending hascendingToo hascending fun path => ?_
    rw [hmemToo, hmem]
    exact exists_congr fun names => and_congr_right fun _ => finds_congr hsame hsound
  rw [hothers, hequal]

/-- An episode in a folder and a clip without extension are found, in whatever order they are
listed; a file with the wrong extension and whatever is in an ignored folder are not. -/
theorem scan_finds_each_once_clip :
    let dir : MediaDirectory :=
      { root := ⟨"/tv".toList⟩, mode := .tvShow, pattern := ⟨"%t", [.token .title]⟩
        sources := ["tvmaze"], extensions := ["mkv"], stripTokens := []
        ignorePatterns := (Regex.compile? "Sample").toList, pruneEmptyDirs := false }
    let file (content : ByteArray) : Entry := .file content 0
    let tree : FileTree :=
      { entries := [
          (["tv".toList], .directory),
          (["tv".toList, "Heroes".toList, "Sample".toList], .directory),
          (["tv".toList, "Heroes".toList, "Sample".toList, "one.mkv".toList], file .empty),
          (["tv".toList, "Heroes".toList, "one.mkv".toList], file .empty),
          (["tv".toList, "Heroes".toList, "one.txt".toList], file .empty),
          (["tv".toList, "Heroes".toList], .directory),
          (["tv".toList, "clip".toList], file ⟨#[0x1A, 0x45, 0xDF, 0xA3]⟩)] }
    tree.Sound ∧ tree.locate dir.root = .ok ["tv".toList] ∧
      tree.get? ["tv".toList] = some .directory ∧
      ∀ listed, listed.SameEntries tree →
        dir.scan listed looksLikeVideo =
          .ok [⟨"/tv/Heroes/one.mkv".toList⟩, ⟨"/tv/clip".toList⟩] := by
  intro dir file tree
  have hsound : tree.Sound := by
    refine FileTree.sound_of_entries ?_ rfl (by decide) (by decide)
    simp [tree, FileTree.get?, List.lookup_cons]
  have hlocate : tree.locate dir.root = .ok ["tv".toList] := by decide
  refine ⟨hsound, hlocate, rfl, ?_⟩
  obtain ⟨files, hscan, -⟩ := scan_finds_each_once dir looksLikeVideo hsound hlocate rfl
  have hfound : dir.filesBelow tree looksLikeVideo (tree.entries.length + 1) dir.root =
      .ok [⟨"/tv/Heroes/one.mkv".toList⟩, ⟨"/tv/clip".toList⟩] := by decide +kernel
  have hfiles : dir.scan tree looksLikeVideo =
      .ok [⟨"/tv/Heroes/one.mkv".toList⟩, ⟨"/tv/clip".toList⟩] := by
    rw [scan, hfound]
    exact congrArg Except.ok (List.mergeSort_of_pairwise (by decide))
  obtain rfl := Except.ok.inj ((hscan tree (.refl tree)).symm.trans hfiles)
  exact hscan

end MediaDirectory

end MediaShelf
