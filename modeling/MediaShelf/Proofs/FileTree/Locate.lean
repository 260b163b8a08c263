import MediaShelf.Proofs.FileTree.Entries
import MediaShelf.Proofs.Path.Components

/-!
# What paths name

A path that names a location goes on naming it while no directory disappears. What a plain path
names can be read off the path: its names below the place where it starts.

## Main definitions

* `FileTree.KeepsDirectories` — a later tree with all the directories of an earlier one
* `FileTree.spelled` — the location that the names of a path spell

## Main results

* `FileTree.KeepsDirectories.locate` — paths keep their meaning
* `FileTree.locate_eq_spelled` — a plain path names what it spells
* `FileTree.locate_push` — a name behind the path of a directory
-/

namespace MediaShelf.FileTree

open MediaShelf.Path (counts)

variable {tree before after later : FileTree} {path : Path} {start goal place : Location}
  {piece : List Char} {pieces : List (List Char)} {content : ByteArray} {modified : Nat}

/-- No directory of the earlier tree is missing in the later one. -/
structure KeepsDirectories (before after : FileTree) : Prop where
  workingDirectory : after.workingDirectory = before.workingDirectory
  directory : ∀ {place}, before.get? place = some .directory → after.get? place = some .directory

/-- The location that the names of a path spell. -/
def spelled (tree : FileTree) (path : Path) : Location := tree.startOf path ++ path.names

/-! ### Following pieces -/

/-- One step along a path leads from a directory to itself, to the one above, or to a name. -/
theorem follow_cons (h : tree.follow start (piece :: pieces) = .ok goal) :
    tree.get? start = some .directory ∧
      (counts piece = false ∧ tree.follow start pieces = .ok goal ∨
        piece = ['.', '.'] ∧ tree.follow start.dropLast pieces = .ok goal ∨
        counts piece = true ∧ piece ≠ ['.', '.'] ∧ nameSize piece ≤ nameLimit ∧
          tree.follow (start ++ [piece]) pieces = .ok goal) := by
  rw [follow] at h
  split at h
  · cases h
  · cases h
  · rename_i hdirectory
    refine ⟨hdirectory, ?_⟩
    split at h
    · rename_i hskip
      exact .inl ⟨by simpa [counts, or_iff_not_imp_left] using hskip, h⟩
    · rename_i hcounts
      split at h
      · rename_i hup
        exact .inr (.inl ⟨hup, h⟩)
      · rename_i hup
        split at h
        · cases h
        · rename_i hsize
          exact .inr (.inr ⟨by simpa [counts, not_or] using hcounts, hup, Nat.not_lt.mp hsize, h⟩)

theorem follow_skip (hdirectory : tree.get? start = some .directory) (h : counts piece = false) :
    tree.follow start (piece :: pieces) = tree.follow start pieces := by
  have hskip : piece = [] ∨ piece = ['.'] := by simpa [counts, or_iff_not_imp_left] using h
  simp [follow, hdirectory, hskip]

theorem follow_up (hdirectory : tree.get? start = some .directory) :
    tree.follow start (['.', '.'] :: pieces) = tree.follow start.dropLast pieces := by
  simp [follow, hdirectory]

theorem follow_name (hdirectory : tree.get? start = some .directory) (hcounts : counts piece = true)
    (hup : piece ≠ ['.', '.']) (hsize : nameSize piece ≤ nameLimit) :
    tree.follow start (piece :: pieces) = tree.follow (start ++ [piece]) pieces := by
  have hskip : ¬(piece = [] ∨ piece = ['.']) := by simpa [counts, not_or] using hcounts
  simp [follow, hdirectory, hskip, hup, Nat.not_lt.mpr hsize]

/-- Pieces behind others are followed from where those lead. -/
theorem follow_append (start : Location) (pieces others : List (List Char)) :
    tree.follow start (pieces ++ others) =
      (tree.follow start pieces).bind fun mid => tree.follow mid others := by
  induction pieces generalizing start with
  | nil => rfl
  | cons piece pieces ih =>
    rw [List.cons_append, follow, follow]
    split
    · rfl
    · rfl
    · split
      · exact ih start
      · split
        · exact ih start.dropLast
        · split
          · rfl
          · exact ih (start ++ [piece])

/-- A step depends on nothing but whether its start is a directory. -/
theorem follow_mono (hkeep : ∀ {place}, before.get? place = some .directory →
    after.get? place = some .directory) (h : before.follow start pieces = .ok goal) :
    after.follow start pieces = .ok goal := by
  induction pieces generalizing start with
  | nil => exact h
  | cons piece pieces ih =>
    obtain ⟨hdirectory, ⟨hskip, hrest⟩ | ⟨rfl, hrest⟩ | ⟨hcounts, hup, hsize, hrest⟩⟩ :=
      follow_cons h
    · rw [follow_skip (hkeep hdirectory) hskip]
      exact ih hrest
    · rw [follow_up (hkeep hdirectory)]
      exact ih hrest
    · rw [follow_name (hkeep hdirectory) hcounts hup hsize]
      exact ih hrest

/-- Pieces that never go up lead to the names among them. -/
theorem follow_eq_append (hup : ∀ piece ∈ pieces, piece ≠ ['.', '.'])
    (h : tree.follow start pieces = .ok goal) : goal = start ++ pieces.filter counts := by
  induction pieces generalizing start with
  | nil => simpa using (Except.ok.inj h).symm
  | cons piece pieces ih =>
    have hrest := fun other hother => hup other (List.mem_cons_of_mem _ hother)
    obtain ⟨-, ⟨hskip, hfollow⟩ | ⟨heq, -⟩ | ⟨hcounts, -, -, hfollow⟩⟩ := follow_cons h
    · rw [ih hrest hfollow, List.filter_cons_of_neg (by simp [hskip])]
    · exact absurd heq (hup piece List.mem_cons_self)
    · rw [ih hrest hfollow, List.filter_cons_of_pos hcounts, List.append_assoc]
      rfl

/-! ### Paths -/

theorem locate_eq_ok :
    tree.locate path = .ok goal ↔
      path.text ≠ [] ∧ '\x00' ∉ path.text ∧
        tree.follow (tree.startOf path) path.pieces = .ok goal := by
  unfold locate
  split
  · rename_i hempty
    simp_all
  · split
    · rename_i hnull
      simp_all
    · simp_all

theorem startOf_congr (h : after.workingDirectory = before.workingDirectory) :
    after.startOf path = before.startOf path := by
  simp [startOf, h]

namespace KeepsDirectories

theorem refl (tree : FileTree) : KeepsDirectories tree tree := ⟨rfl, id⟩

theorem trans (h : KeepsDirectories before after) (hlater : KeepsDirectories after later) :
    KeepsDirectories before later :=
  ⟨hlater.workingDirectory.trans h.workingDirectory,
    fun hold => hlater.directory (h.directory hold)⟩

/-- Paths keep their meaning while no directory disappears. -/
theorem locate (h : KeepsDirectories before after) (hlocate : before.locate path = .ok goal) :
    after.locate path = .ok goal := by
  rw [locate_eq_ok] at hlocate ⊢
  obtain ⟨hempty, hnull, hfollow⟩ := hlocate
  rw [startOf_congr h.workingDirectory]
  exact ⟨hempty, hnull, follow_mono h.directory hfollow⟩

end KeepsDirectories

/-- A plain path names what it spells, if it names anything. -/
theorem locate_eq_spelled (hplain : path.IsPlain) (h : tree.locate path = .ok goal) :
    goal = tree.spelled path := by
  rw [spelled, hplain.names_eq_pieces]
  exact follow_eq_append (fun _ => hplain.ne_up) (locate_eq_ok.mp h).2.2

/-- Plain paths that spell one location are the same if both are absolute or both are relative. -/
theorem components_eq_of_spelled {other : Path} (hplain : path.IsPlain) (hother : other.IsPlain)
    (habs : path.isAbsolute = other.isAbsolute) (h : tree.spelled path = tree.spelled other) :
    path.components = other.components := by
  rw [hplain.components_eq_iff hother habs]
  rw [spelled, spelled, startOf, startOf, habs] at h
  exact List.append_cancel_left h

/-- A name behind a path is followed from where the path leads. -/
theorem push_of_locate {name : List Char} (h : tree.locate path = .ok goal) (hslash : '/' ∉ name)
    (hnull : '\x00' ∉ name) :
    (path.push name).text ≠ [] ∧ '\x00' ∉ (path.push name).text ∧
      ∃ before, (path.push name).pieces = before ++ [name] ∧
        tree.follow (tree.startOf (path.push name)) before = .ok goal := by
  obtain ⟨hempty, hpath, hfollow⟩ := locate_eq_ok.mp h
  have hstart : tree.startOf (path.push name) = tree.startOf path := by
    rw [startOf, startOf, Path.isAbsolute_push hslash]
  obtain ⟨before, -, hold, hnew⟩ := Path.pieces_push hslash hempty
  refine ⟨?_, ?_, before, hnew, ?_⟩
  · rw [Path.push_eq hslash]
    split <;> simp [hempty]
  · rw [Path.push_eq hslash]
    split <;> simp [hpath, hnull]
  · rw [hstart]
    rcases hold with hold | hold
    · rwa [hold] at hfollow
    · -- the empty piece that the name replaces led from a directory to itself
      rw [hold, follow_append] at hfollow
      cases hmid : tree.follow (tree.startOf path) before with
      | error e => simp [hmid, Except.bind] at hfollow
      | ok mid =>
        rw [hmid] at hfollow
        obtain ⟨-, ⟨-, hend⟩ | ⟨hup, -⟩ | ⟨hcounts, -⟩⟩ := follow_cons hfollow
        · exact hend
        · cases hup
        · cases hcounts

/-- A name behind the path of a directory names what is below it, if the name is not too long. -/
theorem locate_push {name : List Char} (h : tree.locate path = .ok goal)
    (hdirectory : tree.get? goal = some .directory) (hname : Path.IsName name)
    (hnull : '\x00' ∉ name) :
    tree.locate (path.push name) =
      if nameSize name > nameLimit then .error .nameTooLong else .ok (goal ++ [name]) := by
  have hstep : tree.follow goal [name] =
      if nameSize name > nameLimit then .error .nameTooLong else .ok (goal ++ [name]) := by
    simp [follow, hdirectory, hname.ne_nil, hname.ne_here, hname.ne_up]
  obtain ⟨hempty, htext, before, hpieces, hfollow⟩ := push_of_locate h hname.no_slash hnull
  rw [locate, if_neg (by simpa using hempty), if_neg (by simpa using htext), hpieces, follow_append,
    hfollow]
  exact hstep

/-! ### Entries at paths -/

theorem entryAt_eq_ok {entry : Entry} :
    tree.entryAt path = .ok (place, entry) ↔
      tree.locate path = .ok place ∧ tree.get? place = some entry := by
  unfold entryAt
  cases hlocate : tree.locate path with
  | error e => simp [Bind.bind, Except.bind]
  | ok location =>
    cases hget : tree.get? location with
    | none =>
      simp only [Bind.bind, Except.bind, hget, throw, throwThe, MonadExceptOf.throw, reduceCtorEq,
        Except.ok.injEq, false_iff, not_and]
      rintro rfl
      simp [hget]
    | some found =>
      simp only [Bind.bind, Except.bind, hget, Pure.pure, Except.pure, Except.ok.injEq,
        Prod.mk.injEq]
      refine and_congr_right ?_
      rintro rfl
      rw [hget, Option.some.injEq]

/-- There is something at a path exactly if it names the place of an entry. -/
theorem hasEntry_iff :
    tree.hasEntry path ↔ ∃ place, tree.locate path = .ok place ∧ (tree.get? place).isSome := by
  rw [hasEntry]
  constructor
  · intro h
    cases hentry : tree.entryAt path with
    | error e => simp [hentry, Except.isOk, Except.toBool] at h
    | ok found =>
      obtain ⟨hlocate, hget⟩ := entryAt_eq_ok.mp hentry
      exact ⟨found.1, hlocate, by simp [hget]⟩
  · rintro ⟨place, hlocate, hsome⟩
    obtain ⟨entry, hget⟩ := Option.isSome_iff_exists.mp hsome
    rw [entryAt_eq_ok.mpr ⟨hlocate, hget⟩]
    rfl

/-- There is a directory at a path exactly if it names the place of one. -/
theorem isDirectory_iff :
    tree.isDirectory path ↔ ∃ place, tree.locate path = .ok place ∧
      tree.get? place = some .directory := by
  rw [isDirectory]
  constructor
  · intro h
    split at h
    · rename_i place hentry
      exact ⟨place, entryAt_eq_ok.mp hentry⟩
    · cases h
  · rintro ⟨place, hdirectory⟩
    rw [entryAt_eq_ok.mpr hdirectory]

/-- A file at a path has a place, a content and a time. -/
theorem isFile_iff :
    tree.isFile path ↔ ∃ place content modified,
      tree.locate path = .ok place ∧ tree.get? place = some (.file content modified) := by
  rw [isFile]
  constructor
  · intro h
    split at h
    · rename_i place content modified hentry
      exact ⟨place, content, modified, entryAt_eq_ok.mp hentry⟩
    · cases h
  · rintro ⟨place, content, modified, hfile⟩
    rw [entryAt_eq_ok.mpr hfile]

/-- The bytes at a path are the content of the file in the place that it names. -/
theorem readBytes_eq_ok :
    tree.readBytes path = .ok content ↔ ∃ place modified,
      tree.locate path = .ok place ∧ tree.get? place = some (.file content modified) := by
  unfold readBytes
  cases hentry : tree.entryAt path with
  | error e =>
    simp only [Bind.bind, Except.bind, reduceCtorEq, false_iff]
    rintro ⟨place, modified, hfile⟩
    rw [entryAt_eq_ok.mpr hfile] at hentry
    cases hentry
  | ok found =>
    obtain ⟨hlocate, hget⟩ := entryAt_eq_ok.mp hentry
    obtain ⟨place, entry⟩ := found
    cases entry with
    | directory =>
      simp only [Bind.bind, Except.bind, throw, throwThe, MonadExceptOf.throw, reduceCtorEq,
        false_iff]
      rintro ⟨other, modified, hfile⟩
      rw [entryAt_eq_ok.mpr hfile] at hentry
      cases hentry
    | file found modified =>
      simp only [Bind.bind, Except.bind, Pure.pure, Except.pure, Except.ok.injEq]
      constructor
      · rintro rfl
        exact ⟨place, modified, hlocate, hget⟩
      · rintro ⟨other, time, hfile⟩
        rw [entryAt_eq_ok.mpr hfile] at hentry
        cases hentry
        rfl

end MediaShelf.FileTree
