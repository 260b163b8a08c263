import MediaShelf.Proofs.FileTree.Empty
import MediaShelf.Rename.Prune

/-!
# Emptied directories

From the directory of each moved file on, upwards and up to the root, directories are removed while
they are empty. When one is removed, the directory above it may be empty for the first time, and
that is the one that is looked at next. So at the end no directory is empty that was not empty from
the start, and of those that were the ones in question have been looked at.

Whether a directory is below the root is told from its path. That is where it lies as well, as long
as the path does not go up from anywhere within the root.

## Main definitions

* `Rename.RisesOutside` — a path goes up from no place within the root
* `Rename.Removes` — directories are removed while they are empty
* `Rename.EmptiedAt` — the one directory that may be empty for the first time during a walk
* `Rename.SettledAt` — no directory is empty for the first time

## Main results

* `Rename.Removes.unchanged` — what is left alone
* `Rename.pruneUp_spec` — no emptied directory is left by one walk upwards
* `Rename.pruneEmpty_removes` — exactly the emptied directories are removed
-/

namespace MediaShelf

namespace Path

variable {path parent dir : Path} {n : Nat}

/-- The directories above a path are the one that it lies in and those above that. -/
theorem parents_of_parent? (h : path.parent? = some parent) :
    path.parents = parent :: parent.parents := by
  obtain ⟨c, hcomponents⟩ := exists_components_parent? h
  rw [parents, hcomponents, List.length_append, List.length_singleton, parentsWithin, h]
  rfl

theorem parents_of_none (h : path.parent? = none) : path.parents = [] := by
  rw [parents]
  cases path.components.length with
  | zero => rfl
  | succ n => rw [parentsWithin, h]

/-- The components of a directory above a path are the first ones of the path. -/
theorem components_of_mem_parentsWithin (h : dir ∈ path.parentsWithin n) :
    dir.components <+: path.components := by
  induction n generalizing path with
  | zero => cases h
  | succ n ih =>
    rw [parentsWithin] at h
    cases hparent : path.parent? with
    | none => simp [hparent] at h
    | some parent =>
      simp only [hparent, List.mem_cons] at h
      obtain ⟨c, hcomponents⟩ := exists_components_parent? hparent
      rw [hcomponents]
      rcases h with rfl | h
      · exact List.prefix_append _ _
      · exact (ih h).trans (List.prefix_append _ _)

end Path

namespace Rename

open FileTree (walk LiesBelow)
open MediaShelf.Path (Component)

variable {start tree mid after : FileTree} {root path parent dir : Path} {dirs others : List Path}
  {removed taken : List Path} {place : Location} {names : Location} {disk : Disk}
  {ops : List Operation}

/-! ### Directories below the root -/

/-- The path goes up from no place that is the root's or lies below it. -/
def RisesOutside (tree : FileTree) (root path : Path) : Prop :=
  ∀ front, front ++ [.up] <+: path.components →
    ¬walk tree.workingDirectory root.components <+: walk tree.workingDirectory front

theorem RisesOutside.of_begins (h : RisesOutside tree root path)
    (hbegins : dir.components <+: path.components) : RisesOutside tree root dir :=
  fun front hfront => h front (hfront.trans hbegins)

theorem risesOutside_of_not_mem (h : .up ∉ path.components) : RisesOutside tree root path :=
  fun front hfront => absurd (hfront.subset (List.mem_append_right front List.mem_cons_self)) h

/-- Only names are behind the root. -/
theorem RisesOutside.exists_names (h : RisesOutside tree root path) (hroot : root.components ≠ [])
    (hstarts : path.startsWith root) :
    ∃ names : Location, path.components = root.components ++ names.map .name := by
  obtain ⟨rest, hrest⟩ := List.isPrefixOf_iff_prefix.mp hstarts
  have hinner : ∀ c ∈ rest, c = .up ∨ ∃ name, c = .name name := by
    intro c hc
    have htail : c ∈ path.components.tail := by
      rw [← hrest, List.tail_append_of_ne_nil hroot]
      exact List.mem_append_right _ hc
    exact (Path.of_mem_tail_components htail).imp_right fun ⟨name, _, hname⟩ => ⟨name, hname⟩
  have hnames {cs : List Component} (hcs : ∀ c ∈ cs, ∃ name, c = .name name) :
      ∃ names : Location, cs = names.map .name := by
    induction cs with
    | nil => exact ⟨[], rfl⟩
    | cons c cs ih =>
      obtain ⟨name, rfl⟩ := hcs c List.mem_cons_self
      obtain ⟨names, rfl⟩ := ih fun d hd => hcs d (List.mem_cons_of_mem _ hd)
      exact ⟨name :: names, rfl⟩
  by_cases hup : .up ∈ rest
  · -- the first time that it goes up it would do so from within the root
    obtain ⟨front, back, hsplit, hfront⟩ := List.eq_append_cons_of_mem hup
    obtain ⟨names, rfl⟩ := hnames fun c hc =>
      (hinner c (by simp [hsplit, hc])).resolve_left fun hc' => hfront (hc' ▸ hc)
    refine absurd ?_ (h (root.components ++ names.map .name) ⟨back, by simp [← hrest, hsplit]⟩)
    rw [FileTree.walk_append, FileTree.walk_names]
    exact List.prefix_append _ _
  · obtain ⟨names, rfl⟩ := hnames fun c hc =>
      (hinner c hc).resolve_left fun hc' => hup (hc' ▸ hc)
    exact ⟨names, hrest.symm⟩

theorem isBelow_iff (h : path.components = root.components ++ names.map .name) :
    isBelow root path ↔ names ≠ [] := by
  simp [isBelow, Path.startsWith, Path.same, h]

theorem isBelow_eq_false_of_begins (h : dir.components <+: root.components) :
    isBelow root dir = false := by
  rw [Bool.eq_false_iff]
  intro hbelow
  obtain ⟨hstarts, hother⟩ := Bool.and_eq_true_iff.mp hbelow
  rw [Path.startsWith, List.isPrefixOf_iff_prefix] at hstarts
  have hsame := h.eq_of_length (Nat.le_antisymm h.length_le hstarts.length_le)
  simp [Path.same, hsame] at hother

/-- A path is below the root if a directory above it is. -/
theorem isBelow_of_begins (h : dir.components <+: path.components) (hbelow : isBelow root dir) :
    isBelow root path := by
  obtain ⟨hstarts, -⟩ := Bool.and_eq_true_iff.mp hbelow
  rw [Path.startsWith, List.isPrefixOf_iff_prefix] at hstarts
  refine Bool.and_eq_true_iff.mpr ⟨List.isPrefixOf_iff_prefix.mpr (hstarts.trans h), ?_⟩
  rw [Bool.not_eq_true', Bool.eq_false_iff]
  intro hsame
  have hcomponents : path.components = root.components := by simpa [Path.same] using hsame
  rw [isBelow_eq_false_of_begins (hcomponents ▸ h)] at hbelow
  cases hbelow

/-- One name less is behind the root in the directory that a path lies in. -/
theorem components_above {name : List Char} (hparent : path.parent? = some parent)
    (h : path.components = root.components ++ (names ++ [name]).map .name) :
    parent.components = root.components ++ names.map .name := by
  rw [Path.components_parent? hparent, h]
  simp [← List.append_assoc]

/-- The directory that a place below the root lies in is named by the path without the last name. -/
theorem locate_above {name : List Char} (h : tree.locate path = .ok place)
    (hparent : path.parent? = some parent)
    (hcomponents : path.components = root.components ++ (names ++ [name]).map .name)
    (hne : names ≠ []) :
    tree.locate parent = .ok (walk tree.workingDirectory root.components ++ names) := by
  have hparents := components_above hparent hcomponents
  have hlast : parent.components.getLast? = some (.name (names.getLast hne)) := by
    simp [hparents, List.getLast?_map, List.getLast?_eq_some_getLast hne]
  obtain ⟨other, hother⟩ := FileTree.locate_parent h hparent hlast
  rw [hother, FileTree.locate_eq_walk hother, hparents, FileTree.walk_append, FileTree.walk_names]

theorem isEmptyDirectory_iff :
    isEmptyDirectory tree dir ↔ ∃ place, tree.locate dir = .ok place ∧ tree.EmptyAt place := by
  unfold isEmptyDirectory FileTree.children
  cases hentry : tree.entryAt dir with
  | error e =>
    simp only [Bind.bind, Except.bind, Bool.false_eq_true, false_iff]
    rintro ⟨place, hlocate, hempty⟩
    rw [FileTree.entryAt_eq_ok.mpr ⟨hlocate, hempty.1⟩] at hentry
    cases hentry
  | ok found =>
    obtain ⟨place, entry⟩ := found
    obtain ⟨hlocate, hget⟩ := FileTree.entryAt_eq_ok.mp hentry
    cases entry with
    | file content modified =>
      simp only [Bind.bind, Except.bind, throw, throwThe, MonadExceptOf.throw, Bool.false_eq_true,
        false_iff]
      rintro ⟨other, hother, hempty⟩
      obtain rfl := Except.ok.inj (hlocate.symm.trans hother)
      rw [hempty.1] at hget
      cases hget
    | directory =>
      simp only [Bind.bind, Except.bind, Pure.pure, Except.pure, hlocate, Except.ok.injEq,
        exists_eq_left', List.isEmpty_iff, List.eq_nil_iff_forall_not_mem, FileTree.mem_childNames,
        FileTree.EmptyAt, hget, true_and, Option.not_isSome_iff_eq_none]

/-! ### Removals -/

/-- Directories are removed one after the other. Each of them is one of `dirs`, lies below the root,
by its path and by its place, and is empty when it is removed. -/
inductive Removes (root : Path) (dirs : List Path) : FileTree → List Path → FileTree → Prop where
  | nil (tree : FileTree) : Removes root dirs tree [] tree
  | cons {tree after : FileTree} {dir : Path} {place : Location} {removed : List Path}
      (hdir : dir ∈ dirs) (hbelow : isBelow root dir) (hlocate : tree.locate dir = .ok place)
      (hplace : LiesBelow (walk tree.workingDirectory root.components) place)
      (hempty : tree.EmptyAt place)
      (hrest : Removes root dirs (tree.remove place) removed after) :
    Removes root dirs tree (dir :: removed) after

namespace Removes

theorem trans (h : Removes root dirs tree removed mid)
    (hlater : Removes root dirs mid taken after) :
    Removes root dirs tree (removed ++ taken) after := by
  induction h with
  | nil => exact hlater
  | cons hdir hbelow hlocate hplace hempty _ ih =>
    exact .cons hdir hbelow hlocate hplace hempty (ih hlater)

theorem workingDirectory (h : Removes root dirs tree removed after) :
    after.workingDirectory = tree.workingDirectory := by
  induction h with
  | nil => rfl
  | cons _ _ _ _ _ _ ih => exact ih

theorem closed (h : Removes root dirs tree removed after) (hclosed : tree.Closed) :
    after.Closed := by
  induction h with
  | nil => exact hclosed
  | cons _ _ _ hplace hempty _ ih => exact ih (hempty.closed_remove hclosed hplace.ne_nil)

/-- Nothing changes but directories below the root, which are gone afterwards. -/
theorem unchanged (h : Removes root dirs tree removed after) (place : Location) :
    after.get? place = tree.get? place ∨
      LiesBelow (walk tree.workingDirectory root.components) place ∧
        tree.get? place = some .directory ∧ after.get? place = none := by
  induction h with
  | nil => exact .inl rfl
  | @cons tree after dir gone removed _ _ _ hplace hempty _ ih =>
    rw [FileTree.get?_remove hplace.ne_nil] at ih
    by_cases heq : place = gone
    · rw [if_pos heq] at ih
      subst heq
      exact .inr ⟨hplace, hempty.1, ih.elim id fun hcontra => hcontra.2.2⟩
    · rwa [if_neg heq] at ih

/-- What is there afterwards was there before. -/
theorem kept (h : Removes root dirs tree removed after) {entry : Entry}
    (hentry : after.get? place = some entry) : tree.get? place = some entry := by
  rcases h.unchanged place with hsame | ⟨-, -, hnone⟩
  · rw [← hsame, hentry]
  · rw [hnone] at hentry
    cases hentry

/-- A directory that is empty before and after was empty in between. -/
theorem emptyAt_between (h : Removes root dirs start removed mid)
    (hlater : Removes root dirs mid taken after) (hstart : start.EmptyAt place)
    (hafter : after.EmptyAt place) : mid.EmptyAt place := by
  refine ⟨hlater.kept hafter.1, fun name => ?_⟩
  cases hentry : mid.get? (place ++ [name]) with
  | none => rfl
  | some entry =>
    have hold := h.kept hentry
    rw [hstart.2 name] at hold
    cases hold

/-- The path of a directory that is still there goes on naming it. -/
theorem locate (h : Removes root dirs start removed tree) (hclosed : start.Closed)
    (hrises : RisesOutside start root dir) (hlocate : start.locate dir = .ok place)
    (hdirectory : tree.get? place = some .directory) : tree.locate dir = .ok place := by
  refine FileTree.locate_of_later (h.closed hclosed) h.workingDirectory.symm ?_ hlocate
    (by simp [hdirectory]) fun _ => hdirectory
  intro front hfront
  rw [h.workingDirectory]
  -- where the path goes up is outside the root, so the directory there was not removed
  rcases h.unchanged (walk start.workingDirectory front) with hsame | ⟨hbelow, -⟩
  · rw [hsame]
    exact FileTree.risesWithin_of_locate hlocate front hfront
  · exact absurd hbelow.1 (hrises front hfront)

end Removes

/-! ### One walk upwards -/

theorem pruneUp_cons (root dir : Path) (dirs : List Path) (disk : Disk) :
    pruneUp root (dir :: dirs) disk =
      if isBelow root dir && isEmptyDirectory disk.tree dir then
        match Disk.perform (.removeDirectory dir) disk with
        | (.ok (), mid) => (dir :: (pruneUp root dirs mid).1, (pruneUp root dirs mid).2)
        | (.error _, mid) => ([], mid)
      else ([], disk) := by
  simp only [pruneUp, Bind.bind, StateT.bind]
  cases hcheck : isBelow root dir && isEmptyDirectory disk.tree dir with
  | false =>
    simp only [get, getThe, MonadStateOf.get, StateT.get, Pure.pure, hcheck, Bool.false_eq_true,
      if_false]
    rfl
  | true =>
    simp only [get, getThe, MonadStateOf.get, StateT.get, StateT.bind, Pure.pure, hcheck, if_pos]
    rcases Disk.perform (.removeDirectory dir) disk with ⟨_ | ⟨⟩, mid⟩ <;> rfl

/-- The walk ends at a directory that is not below the root, or not empty. -/
theorem pruneUp_stop (h : isBelow root dir = false ∨ isEmptyDirectory disk.tree dir = false) :
    pruneUp root (dir :: dirs) disk = ([], disk) := by
  have hcheck : ¬(isBelow root dir && isEmptyDirectory disk.tree dir) := by
    rcases h with h | h <;> simp [h]
  rw [pruneUp_cons, if_neg hcheck]

/-- At an empty directory below the root it removes that and goes on. -/
theorem pruneUp_step (hclosed : disk.tree.Closed) (hquiet : ∀ now, disk.refusal now = none)
    (hparent : path.parent? = some parent) {name : List Char}
    (hlast : parent.components.getLast? = some (.name name)) (hbelow : isBelow root parent)
    (hlocate : disk.tree.locate parent = .ok place) (hne : place ≠ [])
    (hempty : disk.tree.EmptyAt place) :
    ∃ next : Disk, next.tree = disk.tree.remove place ∧ next.refusal = disk.refusal ∧
      ∀ dirs, pruneUp root (parent :: dirs) disk =
        (parent :: (pruneUp root dirs next).1, (pruneUp root dirs next).2) := by
  have hname : Path.IsName name := Path.isName_of_mem_components (List.mem_of_getLast? hlast)
  have hcheck : isEmptyDirectory disk.tree parent :=
    isEmptyDirectory_iff.mpr ⟨place, hlocate, hempty⟩
  obtain ⟨hresult, htree, hrefusal⟩ := FileTree.perform_removeDirectory (hquiet _) hclosed hlocate
    hne hempty hname (FileTree.lastPiece?_of_parent? hparent hlast)
  refine ⟨(Disk.perform (.removeDirectory parent) disk).2, htree, hrefusal, fun dirs => ?_⟩
  rw [pruneUp_cons, hbelow, hcheck]
  generalize Disk.perform (.removeDirectory parent) disk = ran at hresult ⊢
  obtain ⟨result, next⟩ := ran
  obtain rfl : result = .ok () := hresult
  rfl

/-- No directory below the root is empty that was not so at the start, but perhaps the one with
those names behind the root. -/
def EmptiedAt (start tree : FileTree) (root : Path) (names : Location) : Prop :=
  ∀ place, LiesBelow (walk start.workingDirectory root.components) place → tree.EmptyAt place →
    start.EmptyAt place ∨ place = walk start.workingDirectory root.components ++ names

/-- Of the directories below the root that were not empty at the start none is empty, nor is the one
with those names behind the root. -/
def SettledAt (start tree : FileTree) (root : Path) (names : Location) : Prop :=
  ∀ place, LiesBelow (walk start.workingDirectory root.components) place → tree.EmptyAt place →
    start.EmptyAt place ∧ place ≠ walk start.workingDirectory root.components ++ names

/-- When the directory that is looked at is empty and is removed, only the one that it lay in may be
empty for the first time. -/
theorem EmptiedAt.remove {name : List Char} (h : EmptiedAt start tree root (names ++ [name])) :
    EmptiedAt start
      (tree.remove (walk start.workingDirectory root.components ++ (names ++ [name]))) root
      names := by
  intro other hother hgone
  obtain ⟨hne, hold | hfolder⟩ := hgone.of_remove (by simp)
  · exact .inl ((h other hother hold).resolve_right hne)
  · exact .inr (by rw [hfolder, ← List.append_assoc, List.dropLast_concat])

/-- An empty directory with names behind the root is removed, and the walk goes on from the one that
it lay in. -/
theorem pruneUp_emptied {name : List Char} (hclosed : start.Closed)
    (hquiet : ∀ now, disk.refusal now = none) (hparent : path.parent? = some parent)
    (hcomponents : parent.components = root.components ++ (names ++ [name]).map .name)
    (h : Removes root dirs start removed disk.tree) (hdir : parent ∈ dirs)
    (hcheck : isEmptyDirectory disk.tree parent) :
    ∃ next : Disk, next.refusal = disk.refusal ∧
      next.tree =
        disk.tree.remove (walk start.workingDirectory root.components ++ (names ++ [name])) ∧
      Removes root dirs disk.tree [parent] next.tree ∧
      ∀ dirs, pruneUp root (parent :: dirs) disk =
        (parent :: (pruneUp root dirs next).1, (pruneUp root dirs next).2) := by
  have hlast : parent.components.getLast? = some (.name name) := by simp [hcomponents]
  have hbelow : isBelow root parent := (isBelow_iff hcomponents).mpr (by simp)
  obtain ⟨place, hplace, hempty⟩ := isEmptyDirectory_iff.mp hcheck
  obtain rfl : place = walk start.workingDirectory root.components ++ (names ++ [name]) := by
    rw [FileTree.locate_eq_walk hplace, h.workingDirectory, hcomponents, FileTree.walk_append,
      FileTree.walk_names]
  have hlies : LiesBelow (walk disk.tree.workingDirectory root.components)
      (walk start.workingDirectory root.components ++ (names ++ [name])) := by
    rw [h.workingDirectory]
    exact FileTree.liesBelow_append_iff.mpr (by simp)
  obtain ⟨next, htree, hrefusal, hstep⟩ := pruneUp_step (h.closed hclosed) hquiet hparent hlast
    hbelow hplace hlies.ne_nil hempty
  exact ⟨next, hrefusal, htree, .cons hdir hbelow hplace hlies hempty (htree ▸ .nil _), hstep⟩

/-- If no directory below the root is empty that was not so at the start, but perhaps the one that
is looked at first, then this is so of all directories when the walk ends. -/
theorem pruneUp_spec (hclosed : start.Closed) (hquiet : ∀ now, disk.refusal now = none)
    (hparent : path.parent? = some parent)
    (hcomponents : parent.components = root.components ++ names.map .name)
    (hlocate : names ≠ [] → start.locate parent =
      .ok (walk start.workingDirectory root.components ++ names))
    (hrises : RisesOutside start root path) (h : Removes root dirs start removed disk.tree)
    (hemptied : EmptiedAt start disk.tree root names) (hdirs : path.parents ⊆ dirs) :
    ∃ taken last, pruneUp root path.parents disk = (taken, last) ∧ last.refusal = disk.refusal ∧
      Removes root dirs disk.tree taken last.tree ∧ SettledAt start last.tree root names := by
  rw [Path.parents_of_parent? hparent] at hdirs ⊢
  -- the walk goes up along the names behind the root; the last name is that of the directory
  induction names using List.reverseRecOn generalizing path parent disk removed with
  | nil =>
    have hbelow : isBelow root parent = false := by
      rw [Bool.eq_false_iff, Ne, isBelow_iff hcomponents]
      simp
    refine ⟨[], disk, pruneUp_stop (.inl hbelow), rfl, .nil _, fun place hplace hgone => ?_⟩
    rw [EmptiedAt, List.append_nil] at hemptied
    rw [List.append_nil]
    exact ⟨(hemptied place hplace hgone).resolve_right hplace.2, hplace.2⟩
  | append_singleton names name ih =>
    obtain ⟨c, hpath⟩ := Path.exists_components_parent? hparent
    have hrises' : RisesOutside start root parent :=
      hrises.of_begins (hpath ▸ List.prefix_append _ _)
    have hthere := hlocate (by simp)
    cases hcheck : isEmptyDirectory disk.tree parent with
    | true =>
      obtain ⟨next, hrefusal, htree, hremoved, hstep⟩ := pruneUp_emptied hclosed hquiet hparent
        hcomponents h (hdirs List.mem_cons_self) hcheck
      have hlast : parent.components.getLast? = some (.name name) := by simp [hcomponents]
      obtain ⟨above, habove⟩ :=
        Option.isSome_iff_exists.mp (Path.isSome_parent? hlast (by simp))
      rw [Path.parents_of_parent? habove] at hdirs ⊢
      -- the directory above is looked at next: it may be empty now
      obtain ⟨taken, last, hprune, hrefusal', hremoves, hdone⟩ := ih
        (fun now => by rw [hrefusal, hquiet]) habove (components_above habove hcomponents)
        (locate_above hthere habove hcomponents) hrises' (h.trans hremoved)
        (htree ▸ hemptied.remove) (fun other hother => hdirs (List.mem_cons_of_mem _ hother))
      refine ⟨parent :: taken, last, by rw [hstep, hprune], hrefusal'.trans hrefusal,
        hremoved.trans hremoves, fun other hother hgone => ⟨(hdone other hother hgone).1, ?_⟩⟩
      rintro rfl
      have hnone := hremoves.kept hgone.1
      rw [htree, FileTree.get?_remove (by simp), if_pos rfl] at hnone
      cases hnone
    | false =>
      refine ⟨[], disk, pruneUp_stop (.inr hcheck), rfl, .nil _, fun other hother hgone => ?_⟩
      have hne : other ≠ walk start.workingDirectory root.components ++ (names ++ [name]) := by
        rintro rfl
        have htrue := isEmptyDirectory_iff.mpr
          ⟨_, h.locate hclosed hrises' hthere hgone.1, hgone⟩
        rw [hcheck] at htrue
        cases htrue
      exact ⟨(hemptied other hother hgone).resolve_right hne, hne⟩

/-! ### All operations -/

theorem pruneEmpty_cons (root : Path) (op : Operation) (ops : List Operation) (disk : Disk) :
    pruneEmpty root (op :: ops) disk =
      let (removed, mid) := pruneUp root op.source.parents disk
      let (others, last) := pruneEmpty root ops mid
      (removed ++ others, last) := rfl

/-- A walk that starts at a directory which is not below the root removes nothing. -/
theorem pruneUp_outside (h : ∀ parent, path.parent? = some parent → isBelow root parent = false) :
    pruneUp root path.parents disk = ([], disk) := by
  cases hparent : path.parent? with
  | none => rw [Path.parents_of_none hparent]; rfl
  | some parent =>
    rw [Path.parents_of_parent? hparent, pruneUp_stop (.inl (h parent hparent))]

/-- The operation has its source in a directory that is there, if that is below the root, and its
path goes up from nowhere within the root. -/
structure FromWithin (tree : FileTree) (root : Path) (op : Operation) : Prop where
  directory : ∀ parent, op.source.parent? = some parent → isBelow root parent →
    tree.isDirectory parent
  rises : op.source.startsWith root → RisesOutside tree root op.source

/-- The directory of the source lies where its names behind the root lead. -/
theorem FromWithin.exists_names {op : Operation} (h : FromWithin tree root op)
    (hroot : root.components ≠ []) (hparent : op.source.parent? = some parent)
    (hbelow : isBelow root parent) :
    RisesOutside tree root op.source ∧ ∃ names : Location,
      parent.components = root.components ++ names.map .name ∧
      tree.locate parent = .ok (walk tree.workingDirectory root.components ++ names) ∧
      tree.get? (walk tree.workingDirectory root.components ++ names) = some .directory := by
  obtain ⟨c, hsource⟩ := Path.exists_components_parent? hparent
  have hbegins : parent.components <+: op.source.components := hsource ▸ List.prefix_append _ _
  have hrises := h.rises (Bool.and_eq_true_iff.mp (isBelow_of_begins hbegins hbelow)).1
  obtain ⟨names, hnames⟩ :=
    (hrises.of_begins hbegins).exists_names hroot (Bool.and_eq_true_iff.mp hbelow).1
  obtain ⟨place, hlocate, hdirectory⟩ :=
    FileTree.isDirectory_iff.mp (h.directory parent hparent hbelow)
  obtain rfl : place = walk tree.workingDirectory root.components ++ names := by
    rw [FileTree.locate_eq_walk hlocate, hnames, FileTree.walk_append, FileTree.walk_names]
  exact ⟨hrises, names, hnames, hlocate, hdirectory⟩

/-- The walk of one operation leaves no directory below the root empty that was not so at the start,
and does not leave that empty which the source was in. -/
theorem pruneUp_source {op : Operation} (hclosed : start.Closed)
    (hquiet : ∀ now, disk.refusal now = none) (hroot : root.components ≠ [])
    (hop : FromWithin start root op) (hdirs : op.source.parents ⊆ dirs)
    (h : Removes root dirs start removed disk.tree)
    (hempty : ∀ place, LiesBelow (walk start.workingDirectory root.components) place →
      disk.tree.EmptyAt place → start.EmptyAt place) :
    ∃ taken last, pruneUp root op.source.parents disk = (taken, last) ∧
      last.refusal = disk.refusal ∧ Removes root dirs disk.tree taken last.tree ∧
      ∀ place, LiesBelow (walk start.workingDirectory root.components) place →
        last.tree.EmptyAt place → start.EmptyAt place ∧
          ∀ parent, op.source.parent? = some parent → isBelow root parent →
            place ≠ walk start.workingDirectory parent.components := by
  by_cases hinside : ∃ parent, op.source.parent? = some parent ∧ isBelow root parent
  · obtain ⟨parent, hparent, hbelow⟩ := hinside
    obtain ⟨hrises, names, hnames, hlocate, -⟩ := hop.exists_names hroot hparent hbelow
    obtain ⟨taken, last, hprune, hrefusal, hremoves, hdone⟩ :=
      pruneUp_spec hclosed hquiet hparent hnames (fun _ => hlocate) hrises h
        (fun other hother hgone => .inl (hempty other hother hgone)) hdirs
    refine ⟨taken, last, hprune, hrefusal, hremoves, fun other hother hgone =>
      ⟨(hdone other hother hgone).1, fun found hfound _ => ?_⟩⟩
    obtain rfl := Option.some.inj (hparent.symm.trans hfound)
    rw [hnames, FileTree.walk_append, FileTree.walk_names]
    exact (hdone other hother hgone).2
  · refine ⟨[], disk, pruneUp_outside fun parent hparent => ?_, rfl, .nil _,
      fun place hplace hgone => ⟨hempty place hplace hgone, fun parent hparent hbelow => ?_⟩⟩
    · exact Bool.eq_false_iff.mpr fun hbelow => hinside ⟨parent, hparent, hbelow⟩
    · exact absurd ⟨parent, hparent, hbelow⟩ hinside

/-- If no directory below the root is empty that was not so at the start, then this is so of all
directories in the end, and those that the sources were in are gone or not empty. -/
theorem pruneEmpty_spec (hclosed : start.Closed) (hquiet : ∀ now, disk.refusal now = none)
    (hroot : root.components ≠ []) (hops : ∀ op ∈ ops, FromWithin start root op)
    (hdirs : ∀ op ∈ ops, op.source.parents ⊆ dirs) (h : Removes root dirs start removed disk.tree)
    (hempty : ∀ place, LiesBelow (walk start.workingDirectory root.components) place →
      disk.tree.EmptyAt place → start.EmptyAt place) :
    Removes root dirs disk.tree (pruneEmpty root ops disk).1 (pruneEmpty root ops disk).2.tree ∧
      ∀ place, LiesBelow (walk start.workingDirectory root.components) place →
        (pruneEmpty root ops disk).2.tree.EmptyAt place → start.EmptyAt place ∧
          ∀ op ∈ ops, ∀ parent, op.source.parent? = some parent → isBelow root parent →
            place ≠ walk start.workingDirectory parent.components := by
  induction ops generalizing disk removed with
  | nil => exact ⟨.nil _, fun place hplace hgone => ⟨hempty place hplace hgone, by simp⟩⟩
  | cons op ops ih =>
    obtain ⟨taken, last, hprune, hrefusal, hremoves, hdone⟩ := pruneUp_source hclosed hquiet hroot
      (hops op List.mem_cons_self) (hdirs op List.mem_cons_self) h hempty
    obtain ⟨hlater, hothers⟩ := ih (fun now => by rw [hrefusal, hquiet])
      (fun other hother => hops other (List.mem_cons_of_mem _ hother))
      (fun other hother => hdirs other (List.mem_cons_of_mem _ hother)) (h.trans hremoves)
      (fun place hplace hgone => (hdone place hplace hgone).1)
    rw [pruneEmpty_cons, hprune]
    refine ⟨hremoves.trans hlater, fun place hplace hgone => ?_⟩
    obtain ⟨hstart, hrest⟩ := hothers place hplace hgone
    refine ⟨hstart, fun other hother => ?_⟩
    rcases List.mem_cons.mp hother with rfl | hother
    · -- what is empty at the start and in the end was empty when this operation was done
      exact (hdone place hplace ((h.trans hremoves).emptyAt_between hlater hstart hgone)).2
    · exact hrest other hother

/-- A directory above another one, and below the root, has that in it. -/
theorem locate_of_mem_parents {goal : Location} (h : tree.locate path = .ok goal)
    (hcomponents : path.components = root.components ++ names.map .name)
    (hdir : dir ∈ path.parents) (hbelow : isBelow root dir) :
    ∃ place below, tree.locate dir = .ok place ∧ below ≠ [] ∧ goal = place ++ below := by
  induction names using List.reverseRecOn generalizing path goal with
  | nil =>
    rw [List.map_nil, List.append_nil] at hcomponents
    have hbegins := Path.components_of_mem_parentsWithin hdir
    rw [isBelow_eq_false_of_begins (hcomponents ▸ hbegins)] at hbelow
    cases hbelow
  | append_singleton names name ih =>
    have hlast : path.components.getLast? = some (.name name) := by simp [hcomponents]
    obtain ⟨parent, hparent⟩ := Option.isSome_iff_exists.mp (Path.isSome_parent? hlast (by simp))
    have hcomponents' := components_above hparent hcomponents
    rw [Path.parents_of_parent? hparent, List.mem_cons] at hdir
    have hnames : names ≠ [] := by
      rintro rfl
      rw [List.map_nil, List.append_nil] at hcomponents'
      have hbegins : dir.components <+: root.components := by
        rw [← hcomponents']
        rcases hdir with rfl | hdir
        · exact List.prefix_refl _
        · exact Path.components_of_mem_parentsWithin hdir
      rw [isBelow_eq_false_of_begins hbegins] at hbelow
      cases hbelow
    have hplace := locate_above h hparent hcomponents hnames
    have hgoal : goal = walk tree.workingDirectory root.components ++ names ++ [name] := by
      rw [FileTree.locate_eq_walk h, hcomponents, FileTree.walk_append, FileTree.walk_names,
        List.append_assoc]
    rcases hdir with rfl | hdir
    · exact ⟨_, [name], hplace, by simp, hgoal⟩
    · obtain ⟨place, below, hlocate, hne, hbetween⟩ := ih hplace hcomponents' hdir
      exact ⟨place, below ++ [name], hlocate, by simp, by rw [hgoal, hbetween, List.append_assoc]⟩

/-- Exactly the emptied directories are removed, if nothing outside the tree gets in the way. What
is removed lies below the root, by its path and by its place, is above the source of an operation,
and is empty then. Nothing else changes. In the end the directories above the sources that lie below
the root are gone or not empty. -/
theorem pruneEmpty_removes (disk : Disk) (root : Path) (ops : List Operation)
    (htree : disk.tree.WellFormed) (hquiet : ∀ now, disk.refusal now = none)
    (hroot : root.components ≠ []) (hops : ∀ op ∈ ops, FromWithin disk.tree root op) :
    Removes root (ops.flatMap (·.source.parents)) disk.tree (pruneEmpty root ops disk).1
        (pruneEmpty root ops disk).2.tree ∧
      (∀ place, (pruneEmpty root ops disk).2.tree.get? place = disk.tree.get? place ∨
        LiesBelow (walk disk.tree.workingDirectory root.components) place ∧
          disk.tree.get? place = some .directory ∧
          (pruneEmpty root ops disk).2.tree.get? place = none) ∧
      ∀ op ∈ ops, ∀ dir ∈ op.source.parents, isBelow root dir →
        ∃ place, disk.tree.locate dir = .ok place ∧
          ¬(pruneEmpty root ops disk).2.tree.EmptyAt place := by
  obtain ⟨hremoves, hdone⟩ := pruneEmpty_spec htree.closed hquiet hroot hops
    (fun op hop dir hdir => List.mem_flatMap.mpr ⟨op, hop, hdir⟩)
    (.nil disk.tree) (fun _ _ => id)
  refine ⟨hremoves, hremoves.unchanged, fun op hop dir hdir hbelow => ?_⟩
  obtain ⟨parent, hparent⟩ : ∃ parent, op.source.parent? = some parent := by
    refine Option.isSome_iff_exists.mp (Option.isSome_iff_ne_none.mpr fun hnone => ?_)
    simp [Path.parents_of_none hnone] at hdir
  have hbegins : dir.components <+: op.source.components :=
    Path.components_of_mem_parentsWithin hdir
  rw [Path.parents_of_parent? hparent, List.mem_cons] at hdir
  have hparentBelow : isBelow root parent := by
    rcases hdir with rfl | hdir
    · exact hbelow
    · exact isBelow_of_begins (Path.components_of_mem_parentsWithin hdir) hbelow
  obtain ⟨hrises, names, hnames, hlocate, hdirectory⟩ :=
    (hops op hop).exists_names hroot hparent hparentBelow
  rcases hdir with rfl | hdir
  · -- the directory of the source itself was looked at
    refine ⟨_, hlocate, fun hgone => ?_⟩
    have hplace : LiesBelow (walk disk.tree.workingDirectory root.components)
        (walk disk.tree.workingDirectory root.components ++ names) :=
      FileTree.liesBelow_append_iff.mpr ((isBelow_iff hnames).mp hbelow)
    refine (hdone _ hplace hgone).2 op hop dir hparent hbelow ?_
    rw [hnames, FileTree.walk_append, FileTree.walk_names]
  · -- one above it was not empty at the start
    obtain ⟨place, below, hother, hne, hgoal⟩ :=
      locate_of_mem_parents hlocate hnames hdir hbelow
    refine ⟨place, hother, fun hgone => ?_⟩
    obtain ⟨above, habove⟩ :=
      (hrises.of_begins hbegins).exists_names hroot (Bool.and_eq_true_iff.mp hbelow).1
    have hplace : LiesBelow (walk disk.tree.workingDirectory root.components) place := by
      rw [FileTree.locate_eq_walk hother, habove, FileTree.walk_append, FileTree.walk_names]
      exact FileTree.liesBelow_append_iff.mpr ((isBelow_iff habove).mp hbelow)
    rw [hgoal, (hdone place hplace hgone).1.get?_below htree.closed hne] at hdirectory
    cases hdirectory

/-- Two files that were in one directory each, side by side: with the second of these directories
the one that both lay in goes too. -/
theorem pruneEmpty_removes_shared :
    let disk : Disk := {
      tree := { entries := [([['r']], .directory), ([['r'], ['a']], .directory),
        ([['r'], ['a'], ['b']], .directory), ([['r'], ['a'], ['c']], .directory)] } }
    let ops : List Operation := [⟨⟨"/r/a/b/f".toList⟩, ⟨['/', 'f']⟩, none⟩,
      ⟨⟨"/r/a/c/g".toList⟩, ⟨['/', 'g']⟩, none⟩]
    (pruneEmpty ⟨['/', 'r']⟩ ops disk).1 =
      [⟨"/r/a/b".toList⟩, ⟨"/r/a/c".toList⟩, ⟨"/r/a".toList⟩] ∧
    Removes ⟨['/', 'r']⟩ (ops.flatMap (·.source.parents)) disk.tree
      (pruneEmpty ⟨['/', 'r']⟩ ops disk).1 (pruneEmpty ⟨['/', 'r']⟩ ops disk).2.tree ∧
    (∀ place, (pruneEmpty ⟨['/', 'r']⟩ ops disk).2.tree.get? place = disk.tree.get? place ∨
      LiesBelow (walk disk.tree.workingDirectory (Path.components ⟨['/', 'r']⟩)) place ∧
        disk.tree.get? place = some .directory ∧
        (pruneEmpty ⟨['/', 'r']⟩ ops disk).2.tree.get? place = none) ∧
    ∀ op ∈ ops, ∀ dir ∈ op.source.parents, isBelow ⟨['/', 'r']⟩ dir →
      ∃ place, disk.tree.locate dir = .ok place ∧
        ¬(pruneEmpty ⟨['/', 'r']⟩ ops disk).2.tree.EmptyAt place := by
  intro disk ops
  have htree : disk.tree.WellFormed := by
    refine FileTree.wellFormed_of_entries ?_ rfl
    simp [disk, FileTree.get?, List.lookup_cons]
  have hsources : ∀ op ∈ ops, (∃ parent, op.source.parent? = some parent ∧
      disk.tree.isDirectory parent) ∧ .up ∉ op.source.components := by
    have hfirst : Path.parent? ⟨"/r/a/b/f".toList⟩ = some ⟨"/r/a/b".toList⟩ := by decide +kernel
    have hsecond : Path.parent? ⟨"/r/a/c/g".toList⟩ = some ⟨"/r/a/c".toList⟩ := by decide +kernel
    exact List.forall_mem_cons.mpr ⟨⟨⟨_, hfirst, by decide +kernel⟩, by decide +kernel⟩,
      List.forall_mem_cons.mpr ⟨⟨⟨_, hsecond, by decide +kernel⟩, by decide +kernel⟩,
        List.forall_mem_nil _⟩⟩
  refine ⟨by decide +kernel, pruneEmpty_removes disk ⟨['/', 'r']⟩ ops htree (fun _ => rfl)
    (by decide) fun op hop => ⟨fun parent hparent _ => ?_, fun _ => ?_⟩⟩
  · obtain ⟨found, hfound, hdirectory⟩ := (hsources op hop).1
    obtain rfl := Option.some.inj (hparent.symm.trans hfound)
    exact hdirectory
  · exact risesOutside_of_not_mem (hsources op hop).2

/-- A path that goes up from the root and down again names the root, and its text is behind that of
the root. So the root itself is removed when nothing else was in it. -/
theorem pruneEmpty_removes_root :
    let disk : Disk := { tree := { entries := [([['r']], .directory)] } }
    let op : Operation := ⟨⟨"/r/../r/f".toList⟩, ⟨['/', 'f']⟩, none⟩
    disk.tree.WellFormed ∧ op.source.parent? = some ⟨"/r/../r".toList⟩ ∧
    disk.tree.isDirectory ⟨"/r/../r".toList⟩ ∧
    disk.tree.isDirectory ⟨['/', 'r']⟩ ∧
    (pruneEmpty ⟨['/', 'r']⟩ [op] disk).1 = [⟨"/r/../r".toList⟩] ∧
    (pruneEmpty ⟨['/', 'r']⟩ [op] disk).2.tree.hasEntry ⟨['/', 'r']⟩ = false := by
  intro disk op
  have htree : disk.tree.WellFormed := by
    refine FileTree.wellFormed_of_entries ?_ rfl
    simp [disk, FileTree.get?]
  exact ⟨htree, by decide +kernel, by decide +kernel, by decide +kernel, by decide +kernel,
    by decide +kernel⟩

end Rename

end MediaShelf
