import MediaShelf.Proofs.FileTree.Change
import MediaShelf.Proofs.Rename.Plan
import MediaShelf.Rename.Execute

/-!
# No file is lost

Moving a file replaces whatever file is at its destination. A plan never comes to that, as long as
no two of its destinations are one place: the destination of every operation is free when it is its
turn, although earlier operations made directories and files, and although some of them failed.

The invariant is that every file on the way is where something was from the start or at the
destination of an earlier operation, and that no directory disappeared.

Destinations are compared as they are written. So two of them can be one place if one is absolute
and the other is relative, and then a file is lost.

## Main definitions

* `RenameError.Concerns` — the error is one of the operation
* `Rename.Planned` — operations on different files that go to different free places
* `Rename.Underway` — what holds of a tree while a plan is carried out
* `Rename.Operation.Safe` — the content of the source is where the result says

## Main results

* `Rename.run_move` — what a single operation does to the files
* `Rename.moveAll_safe` — what operations in order do to them
* `Rename.moveAll_plan_safe` — no file is lost by planned operations
* `Rename.moveAll_plan_loses` — a file that is lost to one with the same destination
-/

namespace MediaShelf

/-- The error is about the directory of the destination or about the move itself. -/
def RenameError.Concerns (op : Rename.Operation) : RenameError → Prop
  | .createDirectoryFailed path _ => op.destination.parent? = some path
  | .moveFailed source destination _ => source = op.source ∧ destination = op.destination
  | _ => False

namespace Rename

open FileTree (KeepsDirectories AddsDirectories)

variable {disk : Disk} {tree before after : FileTree} {op : Operation} {path : Path}
  {origin place : Location} {file : ByteArray × Nat}

/-! ### One operation -/

theorem perform_makeDirectory (h : disk.tree.WellFormed) (path : Path) :
    (Disk.perform (.makeDirectory path) disk).2.tree.WellFormed ∧
      AddsDirectories disk.tree (Disk.perform (.makeDirectory path) disk).2.tree := by
  unfold Disk.perform
  cases disk.refusal disk.now with
  | none => exact FileTree.apply_makeDirectory_adds h disk.now
  | some refusal => exact FileTree.applyPartly_makeDirectory_adds h disk.now refusal.made

/-- The directory of a path is made, or there is an error about it. -/
theorem makeParent_adds (h : disk.tree.WellFormed) (path : Path) :
    (makeParent path disk).2.tree.WellFormed ∧
      AddsDirectories disk.tree (makeParent path disk).2.tree ∧
      ∀ e, (makeParent path disk).1 = .error e →
        ∃ parent cause, path.parent? = some parent ∧ e = .createDirectoryFailed parent cause := by
  unfold makeParent
  cases hparent : path.parent? with
  | none => exact ⟨h, .refl disk.tree, fun e he => by cases he⟩
  | some parent =>
    obtain ⟨hformed, hadds⟩ := perform_makeDirectory h parent
    refine ⟨hformed, hadds, fun e he => ⟨parent, ?_⟩⟩
    have hresult : (Disk.perform (.makeDirectory parent) disk).1.mapError
        (RenameError.createDirectoryFailed parent) = .error e := he
    cases hperform : (Disk.perform (.makeDirectory parent) disk).1 with
    | ok value => simp [hperform, Except.mapError] at hresult
    | error cause =>
      rw [hperform] at hresult
      exact ⟨cause, rfl, (Except.error.inj hresult).symm⟩

/-- An operation makes the directory of its destination, and then its change if there is no
error. -/
theorem Operation.run_eq (op : Operation) (change : Path → Path → Change)
    (failed : Path → Path → IoError → RenameError) (disk : Disk) :
    op.run change failed disk =
      match makeParent op.destination disk with
      | (.error e, mid) => (.error e, mid)
      | (.ok (), mid) =>
        ((Disk.perform (change op.source op.destination) mid).1.mapError
          (failed op.source op.destination),
        (Disk.perform (change op.source op.destination) mid).2) := by
  unfold Operation.run
  simp only [Bind.bind, StateT.bind]
  rcases makeParent op.destination disk with ⟨_ | ⟨⟩, mid⟩ <;> rfl

/-- What a move makes of the tree: it is refused, or the file is at the place of its target. -/
theorem perform_move {source target : Path} (h : disk.tree.WellFormed)
    (hsource : disk.tree.locate source = .ok origin) (hfile : disk.tree.fileAt? origin = some file)
    (hvacant : disk.tree.isFile target = false) :
    (∃ cause, (Disk.perform (.move source target) disk).1 = .error cause ∧
      (Disk.perform (.move source target) disk).2.tree = disk.tree) ∨
    ∃ parent name, disk.tree.locate target = .ok (parent ++ [name]) ∧
      disk.tree.get? parent = some .directory ∧ disk.tree.get? (parent ++ [name]) = none ∧
      (Disk.perform (.move source target) disk).1 = .ok () ∧
      (Disk.perform (.move source target) disk).2.tree =
        disk.tree.relocate origin (parent ++ [name]) := by
  unfold Disk.perform
  cases disk.refusal disk.now with
  | some refusal => exact .inl ⟨refusal.cause, rfl, rfl⟩
  | none =>
    cases hmove : disk.tree.moveEntry source target with
    | error e => exact .inl ⟨e, by simp [FileTree.apply, hmove, FileTree.settle]⟩
    | ok moved =>
      obtain ⟨goal, hgoal, hdirectory, rfl⟩ :=
        FileTree.moveEntry_file hsource (FileTree.fileAt?_eq_some.mp hfile) hmove
      have hnone : disk.tree.get? goal = none := by
        cases hget : disk.tree.get? goal with
        | none => rfl
        | some entry =>
          cases entry with
          | directory => exact absurd hget hdirectory
          | file content modified =>
            rw [FileTree.isFile_iff.mpr ⟨goal, content, modified, hgoal, hget⟩] at hvacant
            cases hvacant
      obtain ⟨parent, name, rfl, hparent⟩ := h.exists_folder hgoal hdirectory
      refine .inr ⟨parent, name, hgoal, hparent, hnone, ?_, ?_⟩ <;>
        simp [FileTree.apply, hmove, FileTree.settle]

/-- What an operation made of the files: its file is at the destination, where none was, or the
files are as before and the error is its own. -/
def Operation.Effect (before after : FileTree) (op : Operation) (origin : Location)
    (file : ByteArray × Nat) : Except RenameError Unit → Prop
  | .ok () => ∃ goal, after.locate op.destination = .ok goal ∧ before.fileAt? goal = none ∧
      ∀ place, after.fileAt? place =
        if place = goal then some file
        else if place = origin then none
        else before.fileAt? place
  | .error e => e.Concerns op ∧ ∀ place, after.fileAt? place = before.fileAt? place

/-- An operation takes no directory away and changes no files but its own, if its destination is
not taken by a file. -/
theorem run_move (h : disk.tree.WellFormed)
    (hsource : disk.tree.locate op.source = .ok origin)
    (hfile : disk.tree.fileAt? origin = some file)
    (hvacant : ∀ later, AddsDirectories disk.tree later → later.isFile op.destination = false) :
    (op.run .move .moveFailed disk).2.tree.WellFormed ∧
      KeepsDirectories disk.tree (op.run .move .moveFailed disk).2.tree ∧
      op.Effect disk.tree (op.run .move .moveFailed disk).2.tree origin file
        (op.run .move .moveFailed disk).1 := by
  obtain ⟨hformed, hadds, herror⟩ := makeParent_adds h op.destination
  rw [Operation.run_eq]
  generalize makeParent op.destination disk = made at hformed hadds herror ⊢
  rcases made with ⟨e | ⟨⟩, mid⟩
  · obtain ⟨parent, cause, hparent, rfl⟩ := herror e rfl
    exact ⟨hformed, hadds.keepsDirectories, hparent, fun _ => hadds.fileAt?_eq⟩
  · -- new directories moved no file and took no place that was to be free
    dsimp only at hformed hadds ⊢
    have hsource' := hadds.keepsDirectories.locate hsource
    have hfile' : mid.tree.fileAt? origin = some file := hadds.fileAt?_eq.trans hfile
    rcases perform_move hformed hsource' hfile' (hvacant _ hadds) with
      ⟨cause, hresult, htree⟩ | ⟨parent, name, hgoal, hparent, hnone, hresult, htree⟩
    · rw [hresult, htree]
      exact ⟨hformed, hadds.keepsDirectories, ⟨rfl, rfl⟩, fun _ => hadds.fileAt?_eq⟩
    · have horigin : origin ≠ parent ++ [name] := by
        rintro rfl
        simp [FileTree.fileAt?, hnone] at hfile'
      have hmoved := hformed.relocate hfile' horigin hparent (by simp [hnone])
      have hkeeps := FileTree.KeepsDirectories.relocate hformed hfile' horigin (by simp [hnone])
      rw [hresult, htree]
      refine ⟨hmoved, hadds.keepsDirectories.trans hkeeps, parent ++ [name],
        hkeeps.locate hgoal, ?_, fun place => ?_⟩
      · rw [← hadds.fileAt?_eq]
        simp [FileTree.fileAt?, hnone]
      · rw [FileTree.fileAt?_relocate hformed hfile' horigin (by simp), hadds.fileAt?_eq]

theorem Operation.Effect.stays {result : Except RenameError Unit}
    (h : op.Effect before after origin file result) {other : ByteArray × Nat} (hne : place ≠ origin)
    (hold : before.fileAt? place = some other) : after.fileAt? place = some other := by
  match result, h with
  | .error e, ⟨_, hsame⟩ => rw [hsame, hold]
  | .ok (), ⟨goal, _, hfree, hafter⟩ =>
    rw [hafter, if_neg, if_neg hne, hold]
    rintro rfl
    rw [hfree] at hold
    cases hold

/-! ### Operations in order -/

/-- Operations on different files that go to different free places. -/
structure Planned (start : FileTree) (ops : List Operation) : Prop where
  aimed : ∀ op ∈ ops, Aimed start op
  destinations : GoApart start ops
  isFile : ∀ op ∈ ops, start.isFile op.source
  sources : ops.Pairwise fun a b => start.locate a.source ≠ start.locate b.source

/-- What holds on the way from `start`, when operations went to the paths `done` and `ops` are left:
every file is where something was at the start or at one of the paths, and the files that are
still to be moved are there. -/
structure Underway (start : FileTree) (done : List Path) (ops : List Operation)
    (tree : FileTree) : Prop where
  formed : tree.WellFormed
  keeps : KeepsDirectories start tree
  known : ∀ {place file}, tree.fileAt? place = some file →
    (start.get? place).isSome ∨ ∃ path ∈ done, place = start.spelled path
  apart : ∀ path ∈ done, ∀ op ∈ ops, start.spelled path ≠ start.spelled op.destination
  left : ∀ op ∈ ops, ∀ {place file}, start.locate op.source = .ok place →
    start.fileAt? place = some file → tree.fileAt? place = some file

variable {start : FileTree} {done : List Path} {ops : List Operation}

theorem Planned.tail (h : Planned start (op :: ops)) : Planned start ops where
  aimed later hlater := h.aimed later (List.mem_cons_of_mem _ hlater)
  destinations := (List.pairwise_cons.mp h.destinations).2
  isFile later hlater := h.isFile later (List.mem_cons_of_mem _ hlater)
  sources := (List.pairwise_cons.mp h.sources).2

/-- The source of the first operation is no source of those behind it. -/
theorem Planned.source_ne (h : Planned start (op :: ops))
    (hlocate : start.locate op.source = .ok origin) {later : Operation} (hlater : later ∈ ops)
    (hplace : start.locate later.source = .ok place) : place ≠ origin := by
  rintro rfl
  exact (List.pairwise_cons.mp h.sources).1 later hlater (hlocate.trans hplace.symm)

namespace Underway

theorem refl (h : start.WellFormed) : Underway start [] ops start where
  formed := h
  keeps := .refl start
  known hfile := by simp [FileTree.fileAt?_eq_some.mp hfile]
  apart := by simp
  left _ _ _ _ _ hfile := hfile

/-- A planned destination is not taken by a file when it is its turn. -/
theorem vacant (h : Underway start done (op :: ops) tree) (hstart : start.WellFormed)
    (haimed : Aimed start op) {later : FileTree} (hlater : AddsDirectories tree later) :
    later.isFile op.destination = false := by
  rw [Bool.eq_false_iff]
  intro hfile
  obtain ⟨goal, content, modified, hgoal, hget⟩ := FileTree.isFile_iff.mp hfile
  have hcwd : later.workingDirectory = start.workingDirectory :=
    hlater.workingDirectory.trans h.keeps.workingDirectory
  have hthere : tree.fileAt? goal = some (content, modified) := by
    rw [← hlater.fileAt?_eq]
    exact FileTree.fileAt?_eq_some.mpr hget
  rcases h.known hthere with hold | ⟨path, hpath, hspelled⟩
  · -- then the destination was not free when the plan was made
    have hlocate := FileTree.locate_of_file hstart.closed hcwd haimed.plain hgoal hget hold
    have hentry := FileTree.hasEntry_iff.mpr ⟨goal, hlocate, hold⟩
    rw [haimed.vacant] at hentry
    cases hentry
  · -- then an earlier operation had the same destination
    refine h.apart path hpath op List.mem_cons_self ?_
    rw [← hspelled, FileTree.locate_eq_spelled haimed.plain hgoal, FileTree.spelled,
      FileTree.spelled, FileTree.startOf_congr hcwd]

/-- One operation keeps the invariant for those behind it. -/
theorem step {result : Except RenameError Unit} (h : Underway start done (op :: ops) before)
    (hplanned : Planned start (op :: ops)) (hlocate : start.locate op.source = .ok origin)
    (hformed : after.WellFormed) (hkeeps : KeepsDirectories before after)
    (heffect : op.Effect before after origin file result) :
    Underway start (op.destination :: done) ops after where
  formed := hformed
  keeps := h.keeps.trans hkeeps
  known {place found} hfound := by
    -- a file that was not there before is the one that was moved
    have hbefore : before.fileAt? place = some found ∨ place = start.spelled op.destination := by
      match result, heffect with
      | .error e, ⟨_, hsame⟩ => exact .inl ((hsame place).symm.trans hfound)
      | .ok (), ⟨goal, hgoal, _, hfiles⟩ =>
        rw [hfiles] at hfound
        split at hfound
        · rename_i heq
          have hplain := (hplanned.aimed op List.mem_cons_self).plain
          rw [heq, FileTree.locate_eq_spelled hplain hgoal, FileTree.spelled, FileTree.spelled,
            FileTree.startOf_congr (h.keeps.trans hkeeps).workingDirectory]
          exact .inr rfl
        · split at hfound
          · cases hfound
          · exact .inl hfound
    rcases hbefore with hold | hnew
    · rcases h.known hold with hsome | ⟨path, hpath, hspelled⟩
      · exact .inl hsome
      · exact .inr ⟨path, List.mem_cons_of_mem _ hpath, hspelled⟩
    · exact .inr ⟨op.destination, List.mem_cons_self, hnew⟩
  apart path hpath later hlater := by
    rcases List.mem_cons.mp hpath with rfl | hpath
    · exact (List.pairwise_cons.mp hplanned.destinations).1 later hlater
    · exact h.apart path hpath later (List.mem_cons_of_mem _ hlater)
  left later hlater place found hplace hfound :=
    heffect.stays (hplanned.source_ne hlocate hlater hplace)
      (h.left later (List.mem_cons_of_mem _ hlater) hplace hfound)

end Underway

/-- The errors among results. -/
def failures (results : List (Except RenameError Unit)) : List RenameError :=
  results.filterMap fun
    | .error e => some e
    | .ok () => none

/-- The content that the source of an operation had before is at its destination after a success,
and at the source still after an error, which is then about this operation. -/
def Operation.Safe (before after : FileTree) (op : Operation) : Except RenameError Unit → Prop
  | .ok () => ∃ content, before.readBytes op.source = .ok content ∧
      after.readBytes op.destination = .ok content
  | .error e => e.Concerns op ∧ ∃ content, before.readBytes op.source = .ok content ∧
      after.readBytes op.source = .ok content

theorem runAll_cons (step : Operation → StateM Disk (Except RenameError Unit)) (op : Operation)
    (ops : List Operation) (disk : Disk) :
    runAll step (op :: ops) disk =
      let (result, mid) := step op disk
      let (errors, last) := runAll step ops mid
      (failures [result] ++ errors, last) := by
  simp only [runAll, Bind.bind, StateT.bind]
  rcases step op disk with ⟨e | ⟨⟩, mid⟩ <;> rfl

theorem failures_cons (result : Except RenameError Unit)
    (results : List (Except RenameError Unit)) :
    failures (result :: results) = failures [result] ++ failures results := by
  cases result <;> rfl

theorem moveAll_cons (op : Operation) (ops : List Operation) (disk : Disk) :
    moveAll (op :: ops) disk =
      let (result, mid) := op.run .move .moveFailed disk
      let (errors, last) := moveAll ops mid
      (failures [result] ++ errors, last) :=
  runAll_cons _ op ops disk

/-- What an operation did to its file is still so at the end, if those behind it keep all files that
are not theirs. -/
theorem Underway.safe {last : FileTree} {result : Except RenameError Unit}
    (h : Underway start done (op :: ops) before) (hplanned : Planned start (op :: ops))
    (hlocate : start.locate op.source = .ok origin) (hfile : start.fileAt? origin = some file)
    (heffect : op.Effect before after origin file result) (hkeeps : KeepsDirectories start after)
    (hlater : KeepsDirectories after last)
    (hkept : ∀ place found, (∀ later ∈ ops, start.locate later.source ≠ .ok place) →
      after.fileAt? place = some found → last.fileAt? place = some found) :
    op.Safe start last result := by
  obtain ⟨content, modified⟩ := file
  have hread : start.readBytes op.source = .ok content :=
    FileTree.readBytes_eq_ok.mpr ⟨origin, modified, hlocate, FileTree.fileAt?_eq_some.mp hfile⟩
  match result, heffect with
  | .error e, ⟨hconcerns, hsame⟩ =>
    -- no later operation has this source, so the file that stayed stays
    have hthere := hkept origin _
      (fun later hmem heq => hplanned.source_ne hlocate hmem heq rfl)
      ((hsame origin).trans (h.left op List.mem_cons_self hlocate hfile))
    exact ⟨hconcerns, content, hread, FileTree.readBytes_eq_ok.mpr
      ⟨origin, modified, (hkeeps.trans hlater).locate hlocate,
        FileTree.fileAt?_eq_some.mp hthere⟩⟩
  | .ok (), ⟨goal, hgoal, hfree, hafter⟩ =>
    -- the files that are still to be moved were there before, and none was at the destination
    have hnot : ∀ later ∈ ops, start.locate later.source ≠ .ok goal := by
      intro later hmem heq
      obtain ⟨place, c, m, hplace, hfound⟩ :=
        FileTree.isFile_iff.mp (hplanned.tail.isFile later hmem)
      obtain rfl := Except.ok.inj (heq.symm.trans hplace)
      rw [h.left later (List.mem_cons_of_mem _ hmem) heq
        (FileTree.fileAt?_eq_some.mpr hfound)] at hfree
      cases hfree
    have hthere := hkept goal (content, modified) hnot ((hafter goal).trans (if_pos rfl))
    exact ⟨content, hread, FileTree.readBytes_eq_ok.mpr
      ⟨goal, modified, hlater.locate hgoal, FileTree.fileAt?_eq_some.mp hthere⟩⟩

/-- Operations in order lose no file: each does what its result says, and files that are no source
of theirs stay. -/
theorem moveAll_safe (hstart : start.WellFormed) (hplanned : Planned start ops)
    (hunder : Underway start done ops disk.tree) :
    KeepsDirectories disk.tree (moveAll ops disk).2.tree ∧
      (∀ place file, (∀ op ∈ ops, start.locate op.source ≠ .ok place) →
        disk.tree.fileAt? place = some file → (moveAll ops disk).2.tree.fileAt? place = some file) ∧
      ∃ results, (moveAll ops disk).1 = failures results ∧
        List.Forall₂ (·.Safe start (moveAll ops disk).2.tree ·) ops results := by
  -- the invariant of `Underway` is carried along: `done` grows while `ops` gets shorter
  induction ops generalizing disk done with
  | nil => exact ⟨.refl _, fun _ _ _ hfile => hfile, [], rfl, .nil⟩
  | cons op ops ih =>
    obtain ⟨origin, content, modified, hlocate, hget⟩ :=
      FileTree.isFile_iff.mp (hplanned.isFile op List.mem_cons_self)
    have hfile : start.fileAt? origin = some (content, modified) :=
      FileTree.fileAt?_eq_some.mpr hget
    have haimed := hplanned.aimed op List.mem_cons_self
    obtain ⟨hformed, hkeeps, heffect⟩ := run_move hunder.formed (hunder.keeps.locate hlocate)
      (hunder.left op List.mem_cons_self hlocate hfile) fun _ => hunder.vacant hstart haimed
    rw [moveAll_cons]
    generalize op.run .move .moveFailed disk = ran at hformed hkeeps heffect ⊢
    obtain ⟨result, mid⟩ := ran
    have hmid := hunder.step hplanned hlocate hformed hkeeps heffect
    obtain ⟨hlast, hkept, results, herrors, hsafe⟩ := ih hplanned.tail hmid
    have hdone := hunder.safe hplanned hlocate hfile heffect hmid.keeps hlast hkept
    refine ⟨hkeeps.trans hlast, ?_, result :: results, ?_, .cons hdone hsafe⟩
    · intro place found hnot hold
      refine hkept place found (fun later hlater => hnot later (List.mem_cons_of_mem _ hlater)) ?_
      refine heffect.stays ?_ hold
      rintro rfl
      exact hnot op List.mem_cons_self hlocate
    · rw [failures_cons, ← herrors]
      rfl

/-! ### Plans -/

/-- The operations of a plan take different files to free places. -/
theorem planned_of_plan {root : Path} {targets : List Target}
    (hplan : plan tree root none targets = .ok ops)
    (hfiles : ∀ target ∈ targets, tree.isFile target.source)
    (hdistinct : targets.Pairwise fun a b => tree.locate a.source ≠ tree.locate b.source)
    (hplain : ∀ target ∈ targets, target.destination.IsPlain) (hapart : GoApart tree ops) :
    Planned tree ops := by
  rw [plan_none, Except.ok.injEq] at hplan
  have hpending : (targets.filter fun target => !isSettled none target).Sublist targets :=
    List.filter_sublist
  have hsources := (planFrom_sources tree ((targets.filter (isSettled none)).map (·.destination))
    (targets.filter fun target => !isSettled none target)).trans (hpending.map _)
  have hplain' := fun target htarget => hplain target (hpending.subset htarget)
  subst hplan
  refine ⟨fun op hop => (planFrom_aimed hplain' op hop).1, hapart, fun op hop => ?_, ?_⟩
  · obtain ⟨target, htarget, hsource⟩ :=
      List.mem_map.mp (hsources.subset (List.mem_map_of_mem hop))
    rw [← hsource]
    exact hfiles target htarget
  · have hpairwise : (targets.map (·.source)).Pairwise fun a b => tree.locate a ≠ tree.locate b :=
      List.pairwise_map.mpr hdistinct
    rw [← List.pairwise_map (R := fun a b => tree.locate a ≠ tree.locate b)]
    exact hpairwise.sublist hsources

/-- No file is lost by planned operations, whichever of their changes the disk refuses, unless two
of their destinations are one place. Sources are different files and destinations are plain paths.
The content of each planned source is at its destination afterwards, or at the source still and the
error of the operation is reported, and all other files stay. No two destinations are one place if
all of the targets are absolute or all are relative. -/
theorem moveAll_plan_safe (disk : Disk) (root : Path) (targets : List Target)
    (htree : disk.tree.WellFormed) (hfiles : ∀ target ∈ targets, disk.tree.isFile target.source)
    (hdistinct : targets.Pairwise fun a b =>
      disk.tree.locate a.source ≠ disk.tree.locate b.source)
    (hplain : ∀ target ∈ targets, target.destination.IsPlain) :
    ∃ ops, plan disk.tree root none targets = .ok ops ∧
      (ops.map (·.source)).Sublist (targets.map (·.source)) ∧
      (∀ absolute, (∀ target ∈ targets, target.destination.isAbsolute = absolute) →
        GoApart disk.tree ops) ∧
      (GoApart disk.tree ops → ∃ results, (moveAll ops disk).1 = failures results ∧
        List.Forall₂ (·.Safe disk.tree (moveAll ops disk).2.tree ·) ops results ∧
        ∀ path place content modified,
          (∀ op ∈ ops, disk.tree.locate op.source ≠ .ok place) →
          disk.tree.entryAt path = .ok (place, .file content modified) →
          (moveAll ops disk).2.tree.entryAt path = .ok (place, .file content modified)) := by
  have hplan := plan_none disk.tree root targets
  refine ⟨_, hplan, ?_, fun absolute habs => plan_apart hplan hplain habs, fun hapart => ?_⟩
  · exact (planFrom_sources ..).trans (List.filter_sublist.map _)
  · have hplanned := planned_of_plan hplan hfiles hdistinct hplain hapart
    obtain ⟨hkeeps, hkept, results, herrors, hsafe⟩ :=
      moveAll_safe htree hplanned (Underway.refl htree)
    refine ⟨results, herrors, hsafe, ?_⟩
    intro path place content modified hnot hentry
    obtain ⟨hlocate, hget⟩ := FileTree.entryAt_eq_ok.mp hentry
    have hfile := hkept place _ hnot (FileTree.fileAt?_eq_some.mpr hget)
    exact FileTree.entryAt_eq_ok.mpr
      ⟨hkeeps.locate hlocate, FileTree.fileAt?_eq_some.mp hfile⟩

/-- Two files that are to have one name, beside a file of the third name, where the first move is
refused: the second file gets the number two. -/
theorem moveAll_plan_safe_of_refusal :
    let place (name : Char) : Location := [['r'], [name]]
    let disk : Disk := {
      tree := { entries := [([['r']], .directory), (place 'a', .file ⟨#[1]⟩ 0),
        (place 'b', .file ⟨#[2]⟩ 0), (place 'c', .file ⟨#[3]⟩ 0)] }
      refusal := fun now => if now = 1 then some ⟨.crossesDevices, 0⟩ else none }
    let targets : List Target := [⟨⟨['/', 'r', '/', 'a']⟩, ⟨['/', 'r', '/', 'd']⟩⟩,
      ⟨⟨['/', 'r', '/', 'b']⟩, ⟨['/', 'r', '/', 'd']⟩⟩]
    (∀ target ∈ targets, disk.tree.isFile target.source) ∧
    ∃ ops results, plan disk.tree ⟨['/', 'r']⟩ none targets = .ok ops ∧
      (ops.map (·.source)).Sublist (targets.map (·.source)) ∧
      (moveAll ops disk).1 = failures results ∧
      List.Forall₂ (·.Safe disk.tree (moveAll ops disk).2.tree ·) ops results ∧
      ∀ path place content modified,
        (∀ op ∈ ops, disk.tree.locate op.source ≠ .ok place) →
        disk.tree.entryAt path = .ok (place, .file content modified) →
        (moveAll ops disk).2.tree.entryAt path = .ok (place, .file content modified) := by
  intro place disk targets
  have htree : disk.tree.WellFormed := by
    refine FileTree.wellFormed_of_entries ?_ rfl
    simp [disk, place, FileTree.get?, List.lookup_cons]
  obtain ⟨ops, hplan, hsources, hapart, hsafe⟩ := moveAll_plan_safe disk ⟨['/', 'r']⟩ targets htree
    (by decide) (by decide) (by decide)
  obtain ⟨results, herrors, hresults, hkept⟩ := hsafe (hapart true (by decide))
  exact ⟨by decide, ops, results, hplan, hsources, herrors, hresults, hkept⟩

/-- Two files in the working directory that are to have one name there, which is an absolute path
for the first and a relative path for the second. No number is given, and both moves are made
without an error: the content of the first file is gone. -/
theorem moveAll_plan_loses :
    let place (name : Char) : Location := [['w'], [name]]
    let disk : Disk := {
      tree := {
        entries := [([['w']], .directory), (place 'a', .file ⟨#[1]⟩ 0),
          (place 'b', .file ⟨#[2]⟩ 0)]
        workingDirectory := [['w']] } }
    let targets : List Target := [⟨⟨['/', 'w', '/', 'a']⟩, ⟨['/', 'w', '/', 'd']⟩⟩,
      ⟨⟨['/', 'w', '/', 'b']⟩, ⟨['d']⟩⟩]
    let ops : List Operation := [⟨⟨['/', 'w', '/', 'a']⟩, ⟨['/', 'w', '/', 'd']⟩, none⟩,
      ⟨⟨['/', 'w', '/', 'b']⟩, ⟨['d']⟩, none⟩]
    disk.tree.WellFormed ∧
      (∀ target ∈ targets, disk.tree.isFile target.source) ∧
      (targets.Pairwise fun a b => disk.tree.locate a.source ≠ disk.tree.locate b.source) ∧
      (∀ target ∈ targets, target.destination.IsPlain) ∧
      plan disk.tree ⟨['/', 'w']⟩ none targets = .ok ops ∧ ¬GoApart disk.tree ops ∧
      (moveAll ops disk).1 = [] ∧
      (moveAll ops disk).2.tree.entries.map (·.1) = [[['w']], place 'd'] ∧
      (moveAll ops disk).2.tree.readBytes ⟨['d']⟩ = .ok ⟨#[2]⟩ ∧
      ¬∃ results, (moveAll ops disk).1 = failures results ∧
        List.Forall₂ (·.Safe disk.tree (moveAll ops disk).2.tree ·) ops results := by
  intro place disk targets ops
  have htree : disk.tree.WellFormed := by
    refine FileTree.wellFormed_of_entries ?_ rfl
    simp [disk, place, FileTree.get?, List.lookup_cons]
  have herrors : (moveAll ops disk).1 = [] := by decide +kernel
  refine ⟨htree, by decide, by decide, by decide, by decide +kernel, by decide, herrors,
    by decide +kernel, by decide +kernel, ?_⟩
  rintro ⟨results, hresults, hsafe⟩
  rw [herrors] at hresults
  obtain ⟨first, rest, hfirst, -, rfl⟩ := List.forall₂_cons_left_iff.mp hsafe
  cases first with
  | error e => cases hresults
  | ok value =>
    -- the first content would have to be where the second one is
    obtain ⟨content, hbefore, hafter⟩ := hfirst
    have hold : disk.tree.readBytes ⟨['/', 'w', '/', 'a']⟩ = .ok ⟨#[1]⟩ := by decide +kernel
    have hnew : (moveAll ops disk).2.tree.readBytes ⟨['/', 'w', '/', 'd']⟩ = .ok ⟨#[2]⟩ := by
      decide +kernel
    have hsame : (.ok ⟨#[1]⟩ : Except IoError ByteArray) = .ok ⟨#[2]⟩ := by
      rw [← hold, ← hnew, hbefore, hafter]
    cases hsame

end Rename

end MediaShelf
