import MediaShelf.Proofs.FileTree.Folder
import MediaShelf.Proofs.Rename.FirstFree
import MediaShelf.Proofs.Rename.Move
import MediaShelf.Rename.Prune

/-!
# Copies touch nothing

Copying a file empties whatever file is at its destination. The copies of a plan never come to that,
whatever fails on the way: each of them makes a new file, and everything that was there before stays
as it was. The files of earlier copies stay too, because different destinations below one directory
are different places.

The plan is made before the directory for the copies is. A path that goes up from a directory which
is still to be made names nothing then, so what it will name has to be known otherwise: it may go up
from directories that are there, or not at all.

## Main definitions

* `RenameError.ConcernsCopy` — the error is one of the copy
* `Rename.Operation.Copied` — the content of the source is at the destination, or there is an error
* `Rename.Copies`, `Rename.Copying` — planned copies, and what holds while they are made

## Main results

* `Rename.run_copy` — what a single copy does to the tree
* `Rename.runAll_copy` — what copies in order do to it
* `Rename.copyAll_plan_keeps` — planned copies touch nothing that is there
-/

namespace MediaShelf

/-- The error is about the directory of the destination or about the copy itself. -/
def RenameError.ConcernsCopy (op : Rename.Operation) : RenameError → Prop
  | .createDirectoryFailed path _ => op.destination.parent? = some path
  | .copyFailed source destination _ => source = op.source ∧ destination = op.destination
  | _ => False

namespace Rename

open FileTree (Extends AddsDirectories walk)

variable {disk : Disk} {tree start before after : FileTree} {op : Operation} {output : Path}
  {done ops : List Operation} {origin place : Location} {content : ByteArray} {modified : Nat}

/-! ### One copy -/

/-- What a copy makes of the tree: nothing, or a new file at its target, with the content of the
source unless it was broken off. -/
theorem perform_copy {source target : Path} (h : disk.tree.WellFormed)
    (hsource : disk.tree.locate source = .ok origin)
    (hfile : disk.tree.get? origin = some (.file content modified))
    (hvacant : disk.tree.isFile target = false) :
    (∃ cause, (Disk.perform (.copy source target) disk).1 = .error cause ∧
      (Disk.perform (.copy source target) disk).2.tree = disk.tree) ∨
    ∃ parent name copied, disk.tree.locate target = .ok (parent ++ [name]) ∧
      disk.tree.get? parent = some .directory ∧ disk.tree.get? (parent ++ [name]) = none ∧
      (Disk.perform (.copy source target) disk).2.tree =
        disk.tree.put (parent ++ [name]) (.file copied disk.now) ∧
      ((Disk.perform (.copy source target) disk).1 = .ok () → copied = content) := by
  unfold Disk.perform
  cases disk.refusal disk.now with
  | some refusal =>
    cases hmade : refusal.made with
    | zero => exact .inl ⟨refusal.cause, rfl, by simp [hmade, FileTree.applyPartly]⟩
    | succ bytes =>
      cases hcopy : disk.tree.copyFile disk.now source target (·.extract 0 bytes) with
      | error e =>
        exact .inl
          ⟨refusal.cause, rfl, by simp [hmade, FileTree.applyPartly, hcopy, FileTree.settle]⟩
      | ok copied =>
        obtain ⟨parent, name, hgoal, hparent, hnone, rfl⟩ :=
          FileTree.copyFile_of_vacant h hsource hfile hvacant hcopy
        exact .inr ⟨parent, name, content.extract 0 bytes, hgoal, hparent, hnone,
          by simp [hmade, FileTree.applyPartly, hcopy, FileTree.settle],
          fun hdone => by cases hdone⟩
  | none =>
    cases hcopy : disk.tree.copyFile disk.now source target with
    | error e => exact .inl ⟨e, by simp [FileTree.apply, hcopy, FileTree.settle]⟩
    | ok copied =>
      obtain ⟨parent, name, hgoal, hparent, hnone, rfl⟩ :=
        FileTree.copyFile_of_vacant h hsource hfile hvacant hcopy
      exact .inr ⟨parent, name, content, hgoal, hparent, hnone,
        by simp [FileTree.apply, hcopy, FileTree.settle], fun _ => rfl⟩

/-- The content that the source of a copy had before is at its destination after a success; an error
is about this copy. -/
def Operation.Copied (before after : FileTree) (op : Operation) : Except RenameError Unit → Prop
  | .ok () => ∃ content, before.readBytes op.source = .ok content ∧
      after.readBytes op.destination = .ok content
  | .error e => e.ConcernsCopy op

/-- What a copy made of the tree: everything is still there, what files are new are at the
destination, and the result says what came of it. -/
structure Operation.CopyEffect (before after : FileTree) (op : Operation)
    (result : Except RenameError Unit) : Prop where
  formed : after.WellFormed
  extended : Extends before after
  files : ∀ {place file}, after.fileAt? place = some file →
    before.fileAt? place = some file ∨ after.locate op.destination = .ok place
  copied : op.Copied before after result

/-- A copy touches nothing that is there, if its destination is not taken by a file. -/
theorem run_copy (h : disk.tree.WellFormed) (hsource : disk.tree.isFile op.source)
    (hvacant : ∀ later, AddsDirectories disk.tree later → later.isFile op.destination = false) :
    op.CopyEffect disk.tree (op.run .copy .copyFailed disk).2.tree
      (op.run .copy .copyFailed disk).1 := by
  obtain ⟨hformed, hadds, herror⟩ := makeParent_adds h op.destination
  rw [Operation.run_eq]
  generalize makeParent op.destination disk = made at hformed hadds herror ⊢
  rcases made with ⟨e | ⟨⟩, mid⟩
  · obtain ⟨parent, cause, hparent, rfl⟩ := herror e rfl
    exact ⟨hformed, hadds.toExtends, fun hfile => .inl (hadds.fileAt?_eq ▸ hfile), hparent⟩
  · -- new directories took no place that was to be free
    dsimp only at hformed hadds ⊢
    obtain ⟨origin, content, modified, hlocate, hget⟩ := FileTree.isFile_iff.mp hsource
    have hread := FileTree.readBytes_eq_ok.mpr ⟨origin, modified, hlocate, hget⟩
    rcases perform_copy hformed (hadds.keepsDirectories.locate hlocate) (hadds.kept hget)
      (hvacant _ hadds) with
      ⟨cause, hresult, htree⟩ | ⟨parent, name, copied, hgoal, hparent, hnone, htree, hcopied⟩
    · rw [hresult, htree]
      exact ⟨hformed, hadds.toExtends, fun hfile => .inl (hadds.fileAt?_eq ▸ hfile), rfl, rfl⟩
    · rw [htree]
      have hput : Extends mid.tree (mid.tree.put (parent ++ [name]) (.file copied mid.now)) :=
        .put hnone
      have hgoal' := hput.keepsDirectories.locate hgoal
      refine ⟨hformed.put hparent (by simp [hnone]), hadds.toExtends.trans hput,
        fun hfile => ?_, ?_⟩
      · rename_i place file
        by_cases hplace : place = parent ++ [name]
        · exact .inr (hplace ▸ hgoal')
        · rw [FileTree.fileAt?, FileTree.get?_put (by simp), if_neg hplace] at hfile
          exact .inl (hadds.fileAt?_eq ▸ hfile)
      · cases hresult : (Disk.perform (.copy op.source op.destination) mid).1 with
        | error cause => exact ⟨rfl, rfl⟩
        | ok value =>
          refine ⟨content, hread, FileTree.readBytes_eq_ok.mpr
            ⟨parent ++ [name], mid.now, hgoal', ?_⟩⟩
          rw [FileTree.get?_put (by simp), if_pos rfl, hcopied hresult]

/-! ### Copies in order -/

/-- Copies of files to different free places below one directory. -/
structure Copies (start : FileTree) (output : Path) (ops : List Operation) : Prop where
  isFile : ∀ op ∈ ops, start.isFile op.source
  vacant : ∀ op ∈ ops, start.hasEntry op.destination = false
  below : ∀ op ∈ ops, ∃ names : Location,
    op.destination.components = output.components ++ names.map .name
  distinct : ops.Pairwise fun a b => a.destination.components ≠ b.destination.components

/-- What holds on the way from `start` when the copies `done` were made or failed: everything is
still there, and new files are where these copies went. -/
structure Copying (start : FileTree) (done : List Operation) (tree : FileTree) : Prop where
  formed : tree.WellFormed
  extended : Extends start tree
  known : ∀ {place file}, tree.fileAt? place = some file → (start.get? place).isSome ∨
    ∃ op ∈ done, place = walk start.workingDirectory op.destination.components

/-- One copy keeps the invariant. -/
theorem Copying.step {result : Except RenameError Unit} (h : Copying start done before)
    (heffect : op.CopyEffect before after result) : Copying start (done ++ [op]) after where
  formed := heffect.formed
  extended := h.extended.trans heffect.extended
  known {place file} hfile := by
    rcases heffect.files hfile with hold | hnew
    · rcases h.known hold with hsome | ⟨earlier, hearlier, hplace⟩
      · exact .inl hsome
      · exact .inr ⟨earlier, List.mem_append_left _ hearlier, hplace⟩
    · have hplace := FileTree.locate_eq_walk hnew
      rw [(h.extended.trans heffect.extended).workingDirectory] at hplace
      exact .inr ⟨op, by simp, hplace⟩

/-- The destination of a copy is not taken by a file when it is its turn. -/
theorem Copying.vacant (h : Copying start done tree) (hstart : start.WellFormed)
    (hrises : start.RisesWithin start.workingDirectory output.components)
    (hcopies : Copies start output (done ++ op :: ops)) {later : FileTree}
    (hlater : AddsDirectories tree later) : later.isFile op.destination = false := by
  have hop : op ∈ done ++ op :: ops := by simp
  obtain ⟨names, hnames⟩ := hcopies.below op hop
  rw [Bool.eq_false_iff]
  intro hfile
  obtain ⟨goal, content, modified, hgoal, hget⟩ := FileTree.isFile_iff.mp hfile
  have hcwd : later.workingDirectory = start.workingDirectory :=
    hlater.workingDirectory.trans h.extended.workingDirectory
  have hthere : tree.fileAt? goal = some (content, modified) := by
    rw [← hlater.fileAt?_eq]
    exact FileTree.fileAt?_eq_some.mpr hget
  rcases h.known hthere with hold | ⟨earlier, hearlier, hplace⟩
  · -- then the destination was not free when the plan was made
    have hlocate : start.locate op.destination = .ok goal := by
      refine FileTree.locate_of_later hstart.closed hcwd ?_ hgoal hold fun hdirectory => ?_
      · rw [hnames]
        exact hrises.append_names names
      · rw [hget] at hdirectory
        cases hdirectory
    have hentry := FileTree.hasEntry_iff.mpr ⟨goal, hlocate, hold⟩
    rw [hcopies.vacant op hop] at hentry
    cases hentry
  · -- then an earlier copy had the same destination
    obtain ⟨others, hothers⟩ := hcopies.below earlier (List.mem_append_left _ hearlier)
    have hgoal' := FileTree.locate_eq_walk hgoal
    rw [hcwd, hplace, hnames, hothers, FileTree.walk_append, FileTree.walk_append,
      FileTree.walk_names, FileTree.walk_names, List.append_cancel_left_eq] at hgoal'
    refine (List.pairwise_append.mp hcopies.distinct).2.2 earlier hearlier op List.mem_cons_self ?_
    rw [hnames, hothers, hgoal']

/-- Copies in order touch nothing, and each does what its result says. -/
theorem runAll_copy (hstart : start.WellFormed)
    (hrises : start.RisesWithin start.workingDirectory output.components)
    (hcopies : Copies start output (done ++ ops)) (h : Copying start done disk.tree) :
    Extends disk.tree (runAll (·.run .copy .copyFailed) ops disk).2.tree ∧
      ∃ results, (runAll (·.run .copy .copyFailed) ops disk).1 = failures results ∧
        List.Forall₂ (·.Copied start (runAll (·.run .copy .copyFailed) ops disk).2.tree ·)
          ops results := by
  -- the invariant of `Copying` is carried along: `done` grows while `ops` gets shorter
  induction ops generalizing disk done with
  | nil => exact ⟨.refl _, [], rfl, .nil⟩
  | cons op ops ih =>
    obtain ⟨place, content, modified, hlocate, hget⟩ :=
      FileTree.isFile_iff.mp (hcopies.isFile op (by simp))
    have hthere := h.extended.entryAt (FileTree.entryAt_eq_ok.mpr ⟨hlocate, hget⟩)
    have heffect := run_copy h.formed
      (FileTree.isFile_iff.mpr ⟨place, content, modified, FileTree.entryAt_eq_ok.mp hthere⟩)
      fun _ => h.vacant hstart hrises hcopies
    rw [runAll_cons]
    generalize op.run .copy .copyFailed disk = ran at heffect ⊢
    obtain ⟨result, mid⟩ := ran
    obtain ⟨hextended, results, herrors, hcopied⟩ :=
      ih (by simpa using hcopies) (h.step heffect)
    refine ⟨heffect.extended.trans hextended, result :: results, ?_, .cons ?_ hcopied⟩
    · rw [failures_cons, ← herrors]
      rfl
    · match result, heffect.copied with
      | .error e, hconcerns => exact hconcerns
      | .ok (), ⟨found, hbefore, hafter⟩ =>
        -- what was read when it was the turn of the copy was there from the start
        have hread := FileTree.readBytes_eq_ok.mpr ⟨place, modified, hlocate, hget⟩
        obtain rfl := Except.ok.inj ((h.extended.readBytes hread).symm.trans hbefore)
        exact ⟨content, hread, hextended.readBytes hafter⟩

/-! ### Planned copies -/

/-- Names that are tried for a path below others lie below them too. -/
theorem below_nthName {path : Path} {base : List Path.Component} {names : Location}
    (h : path.components = base ++ names.map .name) (hne : names ≠ []) (k : Nat) :
    ∃ others : Location, (nthName path k).components = base ++ others.map .name := by
  cases k with
  | zero => exact ⟨names, h⟩
  | succ k =>
    obtain ⟨front, last, rfl⟩ : ∃ front last, names = front ++ [last] :=
      ⟨names.dropLast, names.getLast hne, (List.dropLast_concat_getLast hne).symm⟩
    have hlast : path.name? = some last := by simp [Path.name?, h]
    refine ⟨front ++ [lastStem path ++ ([' ', '('] ++ Text.decimal (k + 2) ++ [')']) ++
      lastExtension path], ?_⟩
    rw [nthName, components_withSuffix, lastFolder, hlast, h]
    simp [← List.append_assoc]

/-- A destination below the root that is carried over lies below the directory for copies. -/
theorem Redirects.below {root : Path} {target aimed : Target}
    (h : Redirects root (some output) target aimed) (hbelow : isBelow root target.destination)
    (hplain : target.destination.IsPlain)
    (hspelled : target.destination.isAbsolute = root.isAbsolute) :
    ∃ names : Location, names ≠ [] ∧
      aimed.destination.components = output.components ++ names.map .name := by
  obtain ⟨-, rest, hrest, hcomponents, hdestination⟩ := h
  obtain ⟨hstarts, hother⟩ := Bool.and_eq_true_iff.mp hbelow
  have hrelative : rest.isAbsolute = false := by
    obtain ⟨other, hother, -, hrelative⟩ := Path.stripRoot?_eq_some hstarts
    obtain rfl := Option.some.inj (hrest.symm.trans hother)
    refine hrelative (or_iff_not_imp_left.mpr fun hroot => ?_)
    rw [hspelled, Bool.eq_false_iff, Ne, Path.isAbsolute_iff_head?, not_not.mp hroot]
    simp
  have hplainRest : rest.IsPlain := fun c hc =>
    hplain c (hcomponents ▸ List.mem_append_right _ hc)
  have hnames := hplainRest.components_eq
  rw [hrelative, if_neg (by simp), List.nil_append] at hnames
  refine ⟨rest.names, fun hnil => ?_, ?_⟩
  · -- otherwise the destination would be the root itself
    rw [hnil] at hnames
    rw [hnames] at hcomponents
    simp [Path.same, hcomponents] at hother
  · rw [hdestination, Path.components_join_plain hrelative hplainRest, hnames]

/-- The copies that a plan makes for files and destinations below the root. -/
theorem copies_of_allotment {root : Path} {targets aimed : List Target} {choices : List Choice}
    (h : Allotment start root (some output) targets aimed choices ops)
    (hfiles : ∀ target ∈ targets, start.isFile target.source)
    (hbelow : ∀ target ∈ targets, isBelow root target.destination)
    (hplain : ∀ target ∈ targets, target.destination.IsPlain)
    (hspelled : ∀ target ∈ targets, target.destination.isAbsolute = root.isAbsolute) :
    Copies start output ops := by
  have htarget : ∀ op ∈ ops, ∃ target ∈ targets, ∃ redirected k,
      Redirects root (some output) target redirected ∧ op.source = target.source ∧
        op.destination = nthName redirected.destination k := by
    intro op hop
    rw [h.operations] at hop
    obtain ⟨choice, hchoice, hsome⟩ := List.mem_filterMap.mp hop
    obtain ⟨-, rfl⟩ := Choice.operation?_eq_some.mp hsome
    have haimed : choice.target ∈ aimed := by
      have hmem : choice.target ∈ choices.map (·.target) := List.mem_map_of_mem hchoice
      rw [h.pending] at hmem
      exact (List.mem_filter.mp hmem).1
    obtain ⟨target, hmem, hredirects⟩ := exists_redirected h.redirects haimed
    exact ⟨target, hmem, choice.target, choice.number, hredirects, hredirects.1, rfl⟩
  refine ⟨fun op hop => ?_, h.vacant, fun op hop => ?_, h.distinct⟩
  · obtain ⟨target, hmem, -, -, -, hsource, -⟩ := htarget op hop
    exact hsource ▸ hfiles target hmem
  · obtain ⟨target, hmem, redirected, k, hredirects, -, hdestination⟩ := htarget op hop
    obtain ⟨names, hne, hnames⟩ :=
      hredirects.below (hbelow target hmem) (hplain target hmem) (hspelled target hmem)
    rw [hdestination]
    exact below_nthName hnames hne k

/-- Planned copies touch nothing that is there, whichever of their changes the disk refuses. The
path of the directory for copies goes up from directories only that are there when the plan is made.
If that directory cannot be made, no file is new; else each copy has the content of its source at
its destination, or its error is reported. -/
theorem copyAll_plan_keeps (disk : Disk) (root output : Path) (targets : List Target)
    (htree : disk.tree.WellFormed)
    (hrises : disk.tree.RisesWithin disk.tree.workingDirectory output.components)
    (hfiles : ∀ target ∈ targets, disk.tree.isFile target.source)
    (hbelow : ∀ target ∈ targets, isBelow root target.destination)
    (hplain : ∀ target ∈ targets, target.destination.IsPlain)
    (hspelled : ∀ target ∈ targets, target.destination.isAbsolute = root.isAbsolute) :
    ∃ ops, plan disk.tree root (some output) targets = .ok ops ∧
      (∀ path place entry, disk.tree.entryAt path = .ok (place, entry) →
        (copyAll output ops disk).2.tree.entryAt path = .ok (place, entry)) ∧
      match (copyAll output ops disk).1 with
      | .error _ => ∀ place,
          (copyAll output ops disk).2.tree.fileAt? place = disk.tree.fileAt? place
      | .ok errors => ∃ results, errors = failures results ∧
          List.Forall₂ (·.Copied disk.tree (copyAll output ops disk).2.tree ·) ops results := by
  obtain ⟨aimed, choices, ops, hplan, hallotment⟩ :=
    plan_allotment disk.tree root (some output) targets fun _ target htarget =>
      (Bool.and_eq_true_iff.mp (hbelow target htarget)).1
  have hcopies := copies_of_allotment hallotment hfiles hbelow hplain hspelled
  refine ⟨ops, hplan, ?_⟩
  obtain ⟨hformed, hadds⟩ := perform_makeDirectory htree output
  have hrun : copyAll output ops disk =
      match Disk.perform (.makeDirectory output) disk with
      | (.error cause, mid) => (.error (.disk cause), mid)
      | (.ok (), mid) =>
        (.ok (runAll (·.run .copy .copyFailed) ops mid).1,
          (runAll (·.run .copy .copyFailed) ops mid).2) := by
    simp only [copyAll, Bind.bind, StateT.bind]
    rcases Disk.perform (.makeDirectory output) disk with ⟨_ | ⟨⟩, mid⟩ <;> rfl
  rw [hrun]
  generalize Disk.perform (.makeDirectory output) disk = made at hformed hadds ⊢
  rcases made with ⟨cause | ⟨⟩, mid⟩
  · exact ⟨fun _ _ _ => hadds.toExtends.entryAt, fun _ => hadds.fileAt?_eq⟩
  · -- making the directory added no files
    have hmid : Copying disk.tree [] mid.tree :=
      ⟨hformed, hadds.toExtends, fun hfile => .inl (by
        rw [hadds.fileAt?_eq] at hfile
        simp [FileTree.fileAt?_eq_some.mp hfile])⟩
    obtain ⟨hextended, results, herrors, hcopied⟩ :=
      @runAll_copy mid disk.tree output [] ops htree hrises hcopies hmid
    exact ⟨fun _ _ _ => (hadds.toExtends.trans hextended).entryAt, results, herrors, hcopied⟩

/-- A copy that gets the number two, and one that is broken off when a byte of it is written, below
a directory whose path goes up from one that is there. -/
theorem copyAll_plan_keeps_numbered :
    let place (folder name : Char) : Location := [[folder], [name]]
    let disk : Disk := {
      tree := { entries := [([['r']], .directory), ([['o']], .directory),
        (place 'r' 'a', .file ⟨#[1]⟩ 0), (place 'r' 'b', .file ⟨#[2, 3]⟩ 0),
        (place 'o' 'c', .file ⟨#[4]⟩ 0)] }
      refusal := fun now => if now = 4 then some ⟨.storageFull, 2⟩ else none }
    let output : Path := ⟨"/r/../o".toList⟩
    let targets : List Target := [⟨⟨['/', 'r', '/', 'a']⟩, ⟨['/', 'r', '/', 'c']⟩⟩,
      ⟨⟨['/', 'r', '/', 'b']⟩, ⟨['/', 'r', '/', 'd']⟩⟩]
    disk.tree.WellFormed ∧ disk.tree.RisesWithin disk.tree.workingDirectory output.components ∧
    ∃ ops, plan disk.tree ⟨['/', 'r']⟩ (some output) targets = .ok ops ∧
      ops.map (·.suffix) = [some 2, none] ∧
      (∀ path place entry, disk.tree.entryAt path = .ok (place, entry) →
        (copyAll output ops disk).2.tree.entryAt path = .ok (place, entry)) ∧
      match (copyAll output ops disk).1 with
      | .error _ => ∀ place,
          (copyAll output ops disk).2.tree.fileAt? place = disk.tree.fileAt? place
      | .ok errors => ∃ results, errors = failures results ∧
          List.Forall₂ (·.Copied disk.tree (copyAll output ops disk).2.tree ·) ops results := by
  intro place disk output targets
  have htree : disk.tree.WellFormed := by
    refine FileTree.wellFormed_of_entries ?_ rfl
    simp [disk, place, FileTree.get?, List.lookup_cons]
  have hlocate : disk.tree.locate output = .ok [['o']] := by decide +kernel
  have hrises := FileTree.risesWithin_of_locate hlocate
  obtain ⟨ops, hplan, hkeeps⟩ := copyAll_plan_keeps disk ⟨['/', 'r']⟩ output targets htree hrises
    (by decide) (by decide) (by decide) (by decide)
  have hnumbers : plan disk.tree ⟨['/', 'r']⟩ (some output) targets =
      .ok [⟨⟨['/', 'r', '/', 'a']⟩, ⟨"/r/../o/c (2)".toList⟩, some 2⟩,
        ⟨⟨['/', 'r', '/', 'b']⟩, ⟨"/r/../o/d".toList⟩, none⟩] := by
    decide +kernel
  obtain rfl := Except.ok.inj (hplan.symm.trans hnumbers)
  exact ⟨htree, hrises, _, hplan, rfl, hkeeps⟩

/-- The plan sees nothing behind a directory that is still to be made. When it is made, for the
copies, a file stands at the destination, and the copy takes its place. -/
theorem copyAll_plan_overwrites :
    let place (folder name : Char) : Location := [[folder], [name]]
    let disk : Disk := {
      tree := { entries := [([['r']], .directory), ([['o']], .directory),
        (place 'r' 'a', .file ⟨#[1]⟩ 0), (place 'o' 'b', .file ⟨#[2]⟩ 0)] } }
    let output : Path := ⟨"/n/../o".toList⟩
    let target : Target := ⟨⟨['/', 'r', '/', 'a']⟩, ⟨['/', 'r', '/', 'b']⟩⟩
    disk.tree.WellFormed ∧ disk.tree.isFile target.source ∧
    isBelow ⟨['/', 'r']⟩ target.destination ∧ target.destination.IsPlain ∧
    ∃ ops, plan disk.tree ⟨['/', 'r']⟩ (some output) [target] = .ok ops ∧
      (copyAll output ops disk).1 = .ok [] ∧
      disk.tree.readBytes ⟨['/', 'o', '/', 'b']⟩ = .ok ⟨#[2]⟩ ∧
      (copyAll output ops disk).2.tree.readBytes ⟨['/', 'o', '/', 'b']⟩ = .ok ⟨#[1]⟩ := by
  intro place disk output target
  have htree : disk.tree.WellFormed := by
    refine FileTree.wellFormed_of_entries ?_ rfl
    simp [disk, place, FileTree.get?, List.lookup_cons]
  exact ⟨htree, by decide, by decide, by decide,
    [⟨target.source, ⟨"/n/../o/b".toList⟩, none⟩], by decide +kernel, by decide +kernel,
    by decide +kernel, by decide +kernel⟩

end Rename

end MediaShelf
