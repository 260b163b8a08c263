import MediaShelf.Config.Basic
import MediaShelf.Proofs.FileTree.Canonical

/-!
# The media directory of a path

Media directories may lie in one another, and the path of a file then lies in several of them. Where
a directory lies is told by the plain form of its root. Which of the directories around a path is
taken is told by how long their roots are as they are written, and the two agree unless roots are
written with detours or from different places.

## Main definitions

* `MediaDirectory.Contains` — a directory around a path
* `MediaDirectory.depth` — how deep a directory lies
* `Config.WrittenAsDeep` — directories around a path are written as deep as they lie

## Main results

* `Config.writtenAsDeep_of_plain` — absolute roots that never go up are written so
* `Config.mediaDirFor_deepest` — the directory that is taken for a path
* `Config.mediaDirFor_shallow` — a root with a detour is taken in place of a deeper one
-/

namespace MediaShelf

variable {config : Config} {tree : FileTree} {path : Path} {dir : MediaDirectory}

namespace MediaDirectory

/-- The directory is around the path: the plain form of its root starts that of the path. -/
def Contains (tree : FileTree) (path : Path) (dir : MediaDirectory) : Prop :=
  (tree.canonical dir.root).components <+: (tree.canonical path).components

/-- How many components the plain form of the root has. -/
def depth (tree : FileTree) (dir : MediaDirectory) : Nat :=
  (tree.canonical dir.root).components.length

/-- How many components the root has as it is written. -/
def writtenDepth (dir : MediaDirectory) : Nat := dir.root.components.length

end MediaDirectory

namespace Config

theorem holds_iff : holds tree (tree.canonical path) dir ↔ dir.Contains tree path := by
  rw [holds, Path.startsWith, List.isPrefixOf_iff_prefix]
  rfl

/-! ### The longest root -/

/-- Going through directories, the longest root so far is kept. -/
theorem foldl_deeper (dirs : List MediaDirectory) (start : MediaDirectory) :
    ∃ best, dirs.foldl deeper (some start) = some best ∧ best ∈ start :: dirs ∧
      ∀ dir ∈ start :: dirs, dir.writtenDepth ≤ best.writtenDepth := by
  induction dirs generalizing start with
  | nil => exact ⟨start, rfl, List.mem_cons_self, by simp⟩
  | cons dir dirs ih =>
    rw [List.foldl_cons, deeper]
    split
    · next hle =>
      obtain ⟨best, hbest, hmem, hlongest⟩ := ih dir
      refine ⟨best, hbest, List.mem_cons_of_mem _ hmem, List.forall_mem_cons.mpr ⟨?_, hlongest⟩⟩
      exact Nat.le_trans hle (hlongest dir List.mem_cons_self)
    · next hlt =>
      obtain ⟨best, hbest, hmem, hlongest⟩ := ih start
      obtain ⟨hstart, hrest⟩ := List.forall_mem_cons.mp hlongest
      have hdir : dir.writtenDepth ≤ best.writtenDepth :=
        Nat.le_trans (Nat.le_of_not_le hlt) hstart
      refine ⟨best, hbest, ?_, by simpa using ⟨hstart, hdir, hrest⟩⟩
      exact (List.mem_cons.mp hmem).elim (fun heq => heq ▸ List.mem_cons_self)
        fun hmem => List.mem_cons_of_mem _ (List.mem_cons_of_mem _ hmem)

theorem mem_around : dir ∈ config.mediaDirs.filter (holds tree (tree.canonical path)) ↔
    dir ∈ config.mediaDirs ∧ dir.Contains tree path := by
  rw [List.mem_filter, holds_iff]

/-- Of the directories around a path the one with the longest root as written is taken, and a path
with none around it is refused. -/
theorem mediaDirFor_cases (config : Config) (tree : FileTree) (path : Path) :
    (∃ dir, config.mediaDirFor tree path = .ok dir ∧ dir ∈ config.mediaDirs ∧
      dir.Contains tree path ∧ ∀ other ∈ config.mediaDirs, other.Contains tree path →
        other.writtenDepth ≤ dir.writtenDepth) ∨
    config.mediaDirFor tree path = .error (.unknownMediaDirectory (tree.canonical path)) ∧
      ∀ dir ∈ config.mediaDirs, ¬dir.Contains tree path := by
  cases haround : config.mediaDirs.filter (holds tree (tree.canonical path)) with
  | nil =>
    refine .inr ⟨by simp [mediaDirFor, haround], fun dir hdir hcontains => ?_⟩
    have hmem := mem_around.mpr ⟨hdir, hcontains⟩
    rw [haround] at hmem
    cases hmem
  | cons first rest =>
    obtain ⟨best, hbest, hmem, hlongest⟩ := foldl_deeper rest first
    rw [← haround] at hmem hlongest
    obtain ⟨hbestMem, hcontains⟩ := mem_around.mp hmem
    refine .inl ⟨best, ?_, hbestMem, hcontains, fun other hother hholds => ?_⟩
    · rw [mediaDirFor, haround, List.foldl_cons, deeper, hbest]
    · exact hlongest other (mem_around.mpr ⟨hother, hholds⟩)

/-! ### The deepest root -/

/-- Directories around a path are written as deep as they lie: one that lies deeper than another has
a longer root. -/
def WrittenAsDeep (config : Config) (tree : FileTree) (path : Path) : Prop :=
  ∀ dir ∈ config.mediaDirs, ∀ other ∈ config.mediaDirs,
    dir.Contains tree path → other.Contains tree path →
      dir.depth tree < other.depth tree → dir.writtenDepth < other.writtenDepth

/-- Absolute roots that never go up are written as deep as they lie. -/
theorem writtenAsDeep_of_plain
    (h : ∀ dir ∈ config.mediaDirs, dir.root.isAbsolute ∧ dir.root.IsPlain) :
    config.WrittenAsDeep tree path := by
  have hdepth : ∀ dir ∈ config.mediaDirs, dir.depth tree = dir.writtenDepth := fun dir hdir =>
    congrArg List.length (FileTree.components_canonical (h dir hdir).2 (h dir hdir).1)
  intro dir hdir other hother _ _ hlt
  rwa [hdepth dir hdir, hdepth other hother] at hlt

/-- The directory that is taken is around the path, and where directories around the path are
written as deep as they lie, none of them lies deeper. A path is refused only if no directory is
around it. -/
theorem mediaDirFor_deepest (config : Config) (tree : FileTree) (path : Path) :
    (∀ dir, config.mediaDirFor tree path = .ok dir →
      (dir ∈ config.mediaDirs ∧ dir.Contains tree path) ∧
        (config.WrittenAsDeep tree path → ∀ other ∈ config.mediaDirs, other.Contains tree path →
          other.depth tree ≤ dir.depth tree)) ∧
    ∀ cause, config.mediaDirFor tree path = .error cause ↔
      cause = .unknownMediaDirectory (tree.canonical path) ∧
        ∀ dir ∈ config.mediaDirs, ¬dir.Contains tree path := by
  rcases mediaDirFor_cases config tree path with
    ⟨best, hbest, hmem, hcontains, hlongest⟩ | ⟨hrefused, hnone⟩
  · constructor
    · intro dir hdir
      obtain rfl := Except.ok.inj (hbest.symm.trans hdir)
      refine ⟨⟨hmem, hcontains⟩, fun hdeep other hother hholds => Nat.le_of_not_lt fun hlt => ?_⟩
      have hlonger := hdeep best hmem other hother hcontains hholds hlt
      exact absurd (hlongest other hother hholds) (Nat.not_le.mpr hlonger)
    · simp only [hbest, reduceCtorEq, false_iff, not_and]
      exact fun cause _ hnone => hnone best hmem hcontains
  · constructor
    · intro dir hdir
      rw [hrefused] at hdir
      cases hdir
    · intro cause
      rw [hrefused, Except.error.injEq, eq_comm]
      exact ⟨fun hcause => ⟨hcause, hnone⟩, And.left⟩

/-- A detour does no harm as long as it does not make a root longer than one that lies deeper. -/
theorem mediaDirFor_deepest_nested :
    let dir (root : String) : MediaDirectory :=
      { root := Path.ofString root, mode := .tvShow, pattern := ⟨"%t", [.token .title]⟩
        sources := ["tvmaze"], extensions := ["avi"], stripTokens := []
        ignorePatterns := [], pruneEmptyDirs := false }
    let config : Config := { mediaDirs := [dir "/media/tv/../tv", dir "/media", dir "/other"] }
    let tree : FileTree :=
      { entries := [(["media".toList], .directory), (["media".toList, "tv".toList], .directory)] }
    let path := Path.ofString "/media/tv"
    config.WrittenAsDeep tree path ∧
      config.mediaDirFor tree path = .ok (dir "/media/tv/../tv") ∧
      (dir "/media/tv/../tv").depth tree = 3 ∧
      ∀ other ∈ config.mediaDirs, other.Contains tree path → other.depth tree ≤ 3 := by
  intro dir config tree path
  have hdepth : ∀ dir ∈ config.mediaDirs, ∀ other ∈ config.mediaDirs,
      dir.depth tree < other.depth tree → dir.writtenDepth < other.writtenDepth := by decide
  have hdeep : config.WrittenAsDeep tree path :=
    fun dir hdir other hother _ _ => hdepth dir hdir other hother
  have hfound : config.mediaDirFor tree path = .ok (dir "/media/tv/../tv") := rfl
  exact ⟨hdeep, hfound, by decide, ((mediaDirFor_deepest config tree path).1 _ hfound).2 hdeep⟩

/-- A root that goes down and up again is longer than one that lies deeper, and is taken in its
place. -/
theorem mediaDirFor_shallow :
    let dir (root : String) : MediaDirectory :=
      { root := Path.ofString root, mode := .tvShow, pattern := ⟨"%t", [.token .title]⟩
        sources := ["tvmaze"], extensions := ["avi"], stripTokens := []
        ignorePatterns := [], pruneEmptyDirs := false }
    let outer := dir "/media/tv/.."
    let inner := dir "/media/tv"
    let tree : FileTree :=
      { entries := [
          (["media".toList], .directory),
          (["media".toList, "tv".toList], .directory),
          (["media".toList, "tv".toList, "Heroes.avi".toList], .file .empty 0)] }
    let path := Path.ofString "/media/tv/Heroes.avi"
    Config.mediaDirFor { mediaDirs := [outer, inner] } tree path = .ok outer ∧
      inner.Contains tree path ∧ outer.depth tree < inner.depth tree := by
  intro dir outer inner tree path
  exact ⟨rfl, holds_iff.mp (by decide), by decide⟩

end Config

end MediaShelf
