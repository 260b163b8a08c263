import MediaShelf.Proofs.FileTree.Locate

/-!
# Where components lead

There are no links between directories, so the place that a path names can be read off its
components, also where the path goes up. What a tree decides is only whether the way is open: every
place on it has to be a directory. Where a path goes down, that much is known of a tree that has
anything at the end of the way; where it goes up, the place that it goes up from has to be looked
at.

## Main definitions

* `FileTree.walk` — the place that components lead to
* `FileTree.RisesWithin` — wherever components go up, they go up from a directory

## Main results

* `FileTree.locate_eq_walk` — a path names the place that its components lead to
* `FileTree.locate_of_later` — the way of a path is open as soon as something is at its end
* `FileTree.locate_parent` — the directory that a path lies in
-/

namespace MediaShelf

open MediaShelf.Path (Component innerComponent? firstComponent? counts)

namespace FileTree

variable {tree before after : FileTree} {path parent : Path} {start goal place : Location}
  {piece name : List Char} {pieces : List (List Char)} {components : List Component}

/-- Where a component leads from a place. -/
def stepTo (place : Location) : Component → Location
  | .root => []
  | .here => place
  | .up => place.dropLast
  | .name text => place ++ [text]

/-- Where components lead from a place, one after the other. -/
def walk (start : Location) (components : List Component) : Location :=
  components.foldl stepTo start

/-- Wherever the components go up, they go up from a directory of the tree. -/
def RisesWithin (tree : FileTree) (start : Location) (components : List Component) : Prop :=
  ∀ front, front ++ [.up] <+: components → tree.get? (walk start front) = some .directory

@[simp] theorem walk_nil (start : Location) : walk start [] = start := rfl

@[simp] theorem walk_cons (start : Location) (c : Component) (components : List Component) :
    walk start (c :: components) = walk (stepTo start c) components := rfl

@[simp] theorem walk_append (start : Location) (front back : List Component) :
    walk start (front ++ back) = walk (walk start front) back := List.foldl_append

/-- Names lead down. -/
@[simp] theorem walk_names (start names : Location) :
    walk start (names.map .name) = start ++ names := by
  induction names generalizing start with
  | nil => exact (List.append_nil start).symm
  | cons name names ih =>
    rw [List.map_cons, walk_cons, ih, stepTo, List.append_assoc]
    rfl

theorem risesWithin_of_not_mem (h : .up ∉ components) : tree.RisesWithin start components :=
  fun front hfront => absurd (hfront.subset (List.mem_append_right front List.mem_cons_self)) h

/-- Components rise within a tree if those behind the first do, and the first does if it goes up. -/
theorem RisesWithin.cons {c : Component} (hup : c = .up → tree.get? start = some .directory)
    (h : tree.RisesWithin (stepTo start c) components) :
    tree.RisesWithin start (c :: components) := by
  intro front hfront
  cases front with
  | nil => exact hup (List.cons_prefix_cons.mp hfront).1.symm
  | cons d front =>
    obtain ⟨rfl, hbehind⟩ := List.cons_prefix_cons.mp hfront
    exact h front hbehind

/-- The components behind the first of those that rise within a tree do so too. -/
theorem RisesWithin.tail {c : Component} (h : tree.RisesWithin start (c :: components)) :
    tree.RisesWithin (stepTo start c) components :=
  fun front hfront => h (c :: front) (List.cons_prefix_cons.mpr ⟨rfl, hfront⟩)

/-- Components that rise within a tree do so with names behind them. -/
theorem RisesWithin.append_names (h : tree.RisesWithin start components) (names : Location) :
    tree.RisesWithin start (components ++ names.map .name) := by
  intro front hfront
  refine h front (List.prefix_of_prefix_length_le hfront (List.prefix_append _ _) ?_)
  by_contra hlength
  -- otherwise the last of the components would be one of the names
  obtain ⟨behind, hbehind⟩ := hfront
  have hup : Component.up ∈ names.map Component.name := by
    have hget : (front ++ [Component.up] ++ behind)[front.length]? = some .up := by simp
    have hle : components.length ≤ front.length := by
      rw [List.length_append, List.length_singleton] at hlength
      omega
    rw [hbehind, List.getElem?_append_right hle] at hget
    exact List.mem_of_getElem? hget
  simp at hup

/-- Components that do not go up and do not start anew are names. -/
theorem names_of_inner (h : .up ∉ pieces.filterMap innerComponent?) :
    ∃ names : Location, pieces.filterMap innerComponent? = names.map .name := by
  refine ⟨pieces.filter counts, Path.filterMap_inner fun piece hpiece hup => h ?_⟩
  exact List.mem_filterMap.mpr ⟨piece, hpiece, by rw [hup]; rfl⟩

/-! ### Pieces -/

theorem innerComponent?_of_skip (h : counts piece = false) : innerComponent? piece = none := by
  refine if_pos ?_
  simpa [counts, or_iff_not_imp_left] using h

theorem innerComponent?_of_counts (h : counts piece = true) (hup : piece ≠ ['.', '.']) :
    innerComponent? piece = some (.name piece) := by
  have hskip : ¬(piece = [] ∨ piece = ['.']) := by simpa [counts, not_or] using h
  rw [innerComponent?, if_neg hskip, if_neg hup]

/-- Pieces that can be followed lead where their components do. -/
theorem follow_eq_walk (h : tree.follow start pieces = .ok goal) :
    goal = walk start (pieces.filterMap innerComponent?) := by
  induction pieces generalizing start with
  | nil => exact (Except.ok.inj h).symm
  | cons piece pieces ih =>
    obtain ⟨-, ⟨hskip, hrest⟩ | ⟨rfl, hrest⟩ | ⟨hcounts, hup, -, hrest⟩⟩ := follow_cons h
    · rw [List.filterMap_cons_none (innerComponent?_of_skip hskip)]
      exact ih hrest
    · exact ih hrest
    · rw [List.filterMap_cons_some (innerComponent?_of_counts hcounts hup)]
      exact ih hrest

/-- Pieces that can be followed rise within the tree. -/
theorem risesWithin_of_follow (h : tree.follow start pieces = .ok goal) :
    tree.RisesWithin start (pieces.filterMap innerComponent?) := by
  induction pieces generalizing start with
  | nil => exact risesWithin_of_not_mem List.not_mem_nil
  | cons piece pieces ih =>
    obtain ⟨hdirectory, ⟨hskip, hrest⟩ | ⟨rfl, hrest⟩ | ⟨hcounts, hup, -, hrest⟩⟩ := follow_cons h
    · rw [List.filterMap_cons_none (innerComponent?_of_skip hskip)]
      exact ih hrest
    · exact .cons (fun _ => hdirectory) (ih hrest)
    · rw [List.filterMap_cons_some (innerComponent?_of_counts hcounts hup)]
      exact .cons (fun hc => by cases hc) (ih hrest)

/-- A place from which components lead to something is a directory, unless it is the end of the way
itself. -/
theorem directory_of_walk (hclosed : tree.Closed)
    (hrises : tree.RisesWithin start (pieces.filterMap innerComponent?))
    (hsome : (tree.get? (walk start (pieces.filterMap innerComponent?))).isSome) :
    tree.get? start = some .directory ∨
      walk start (pieces.filterMap innerComponent?) = start := by
  -- up to the first place where it goes up, or to its end, the way goes down by names
  suffices ∃ names : Location, (tree.get? (start ++ names)).isSome ∧
      (names = [] → tree.get? start = some .directory ∨
        walk start (pieces.filterMap innerComponent?) = start) by
    obtain ⟨names, hthere, hstart⟩ := this
    by_cases hnames : names = []
    · exact hstart hnames
    · obtain ⟨entry, hentry⟩ := Option.isSome_iff_exists.mp hthere
      exact .inl (hclosed.directory_of_below names hnames hentry)
  by_cases hup : .up ∈ pieces.filterMap innerComponent?
  · obtain ⟨front, back, hsplit, hfront⟩ := List.eq_append_cons_of_mem hup
    obtain ⟨names, rfl⟩ : ∃ names : Location, front = names.map .name := by
      obtain ⟨front', -, -, hfirst, -⟩ := List.filterMap_eq_append_iff.mp hsplit
      exact hfirst ▸ @names_of_inner front' (hfirst ▸ hfront)
    have hthere := hrises (names.map .name) ⟨back, by rw [hsplit]; simp⟩
    rw [walk_names] at hthere
    refine ⟨names, by rw [hthere]; rfl, fun hnames => .inl ?_⟩
    rwa [hnames, List.append_nil] at hthere
  · obtain ⟨names, hnames⟩ := names_of_inner hup
    rw [hnames, walk_names] at hsome ⊢
    exact ⟨names, hsome, fun hnil => .inr (by rw [hnil, List.append_nil])⟩

/-- Pieces that can be followed in one tree can be followed in another one that has something at the
end of the way, if they rise within it: all directories on the way must be there. -/
theorem follow_of_later (hclosed : before.Closed)
    (hrises : before.RisesWithin start (pieces.filterMap innerComponent?))
    (h : after.follow start pieces = .ok goal) (hsome : (before.get? goal).isSome)
    (hkind : after.get? goal = some .directory → before.get? goal = some .directory) :
    before.follow start pieces = .ok goal := by
  induction pieces generalizing start with
  | nil => exact h
  | cons piece pieces ih =>
    have hgoal := follow_eq_walk h
    obtain ⟨hafter, hcases⟩ := follow_cons h
    have hstart : before.get? start = some .directory := by
      rcases directory_of_walk hclosed hrises (hgoal ▸ hsome) with hstart | hend
      · exact hstart
      · rw [← hgoal] at hend
        exact hend ▸ hkind (hend ▸ hafter)
    rcases hcases with ⟨hskip, hrest⟩ | ⟨rfl, hrest⟩ | ⟨hcounts, hup, hsize, hrest⟩
    · rw [List.filterMap_cons_none (innerComponent?_of_skip hskip)] at hrises
      rw [follow_skip hstart hskip]
      exact ih hrises hrest
    · rw [follow_up hstart]
      exact ih hrises.tail hrest
    · rw [List.filterMap_cons_some (innerComponent?_of_counts hcounts hup)] at hrises
      rw [follow_name hstart hcounts hup hsize]
      exact ih hrises.tail hrest

/-! ### Paths -/

/-- The components of a path are those of its pieces, behind what tells where the path starts. -/
theorem components_eq_lead (tree : FileTree) (path : Path) :
    ∃ lead, path.components = lead ++ path.pieces.filterMap innerComponent? ∧
      .up ∉ lead ∧ walk tree.workingDirectory lead = tree.startOf path := by
  obtain ⟨first, rest, hpieces⟩ := List.exists_cons_of_ne_nil path.pieces_ne_nil
  have hcomponents := Path.components_of_pieces hpieces
  rw [hpieces]
  cases habs : path.isAbsolute with
  | true =>
    -- the first piece is empty, and the root stands in its place
    obtain ⟨rfl, -⟩ := (Path.isAbsolute_iff hpieces).mp habs
    rw [habs] at hcomponents
    exact ⟨[.root], hcomponents, by simp, by simp [startOf, habs, stepTo]⟩
  | false =>
    have hstart : tree.startOf path = tree.workingDirectory := by simp [startOf, habs]
    rw [habs, if_neg (by simp)] at hcomponents
    rw [hcomponents, hstart]
    by_cases hhere : first = ['.']
    · subst hhere
      exact ⟨[.here], rfl, by simp, rfl⟩
    · refine ⟨[], ?_, List.not_mem_nil, rfl⟩
      rw [firstComponent?, if_neg hhere]
      cases hfirst : innerComponent? first <;> simp [hfirst]

/-- The place that a path names is where its components lead. -/
theorem locate_eq_walk (h : tree.locate path = .ok goal) :
    goal = walk tree.workingDirectory path.components := by
  obtain ⟨lead, hcomponents, -, hlead⟩ := components_eq_lead tree path
  rw [hcomponents, walk_append, hlead]
  exact follow_eq_walk (locate_eq_ok.mp h).2.2

/-- A path that names a place rises within the tree. -/
theorem risesWithin_of_locate (h : tree.locate path = .ok goal) :
    tree.RisesWithin tree.workingDirectory path.components := by
  obtain ⟨lead, hcomponents, hlevel, hlead⟩ := components_eq_lead tree path
  have hinner := risesWithin_of_follow (locate_eq_ok.mp h).2.2
  rw [← hlead] at hinner
  rw [hcomponents]
  clear hcomponents hlead h
  generalize tree.workingDirectory = start at hinner ⊢
  induction lead generalizing start with
  | nil => exact hinner
  | cons c lead ih =>
    obtain ⟨hc, hlevel⟩ := not_or.mp (mt List.mem_cons.mpr hlevel)
    exact .cons (fun hup => absurd hup.symm hc) (ih hlevel _ hinner)

/-- A path that names something in one tree names the same in every closed tree that has something
in that place, if it rises within that tree. -/
theorem locate_of_later (hclosed : before.Closed)
    (hstart : after.workingDirectory = before.workingDirectory)
    (hrises : before.RisesWithin before.workingDirectory path.components)
    (h : after.locate path = .ok goal) (hsome : (before.get? goal).isSome)
    (hkind : after.get? goal = some .directory → before.get? goal = some .directory) :
    before.locate path = .ok goal := by
  rw [locate_eq_ok] at h ⊢
  obtain ⟨hempty, hnull, hfollow⟩ := h
  rw [startOf_congr hstart] at hfollow
  refine ⟨hempty, hnull, follow_of_later hclosed ?_ hfollow hsome hkind⟩
  obtain ⟨lead, hcomponents, -, hlead⟩ := components_eq_lead before path
  intro front hfront
  rw [← hlead, ← walk_append]
  refine hrises (lead ++ front) ?_
  rw [hcomponents, List.append_assoc]
  exact (List.prefix_append_right_inj lead).mpr hfront

/-- A plain path that names a file names the same in every closed tree that has anything in
that place. -/
theorem locate_of_file {content : ByteArray} {modified : Nat} (hclosed : before.Closed)
    (hstart : after.workingDirectory = before.workingDirectory) (hplain : path.IsPlain)
    (h : after.locate path = .ok goal) (hfile : after.get? goal = some (.file content modified))
    (hold : (before.get? goal).isSome) : before.locate path = .ok goal := by
  refine locate_of_later hclosed hstart ?_ h hold fun hdirectory => ?_
  · exact risesWithin_of_not_mem fun hup => (hplain _ hup).2 rfl
  · rw [hfile] at hdirectory
    cases hdirectory

/-- The directory that a path lies in is named by the path without its last name. -/
theorem locate_parent (h : tree.locate path = .ok goal) (hparent : path.parent? = some parent)
    (hlast : parent.components.getLast? = some (.name name)) :
    ∃ place, tree.locate parent = .ok place := by
  obtain ⟨rest, hpieces, hend⟩ := Path.pieces_parent? hparent hlast
  obtain ⟨-, hnull, hfollow⟩ := locate_eq_ok.mp h
  have hstart : tree.startOf parent = tree.startOf path := by
    rw [startOf, startOf, Path.isAbsolute_parent? hparent (by rintro hnil; simp [hnil] at hlast)]
  rw [hpieces, follow_append] at hfollow
  cases hplace : tree.follow (tree.startOf path) parent.pieces with
  | error e => simp [hplace, Except.bind] at hfollow
  | ok place =>
    refine ⟨place, locate_eq_ok.mpr ⟨?_, fun hmem => ?_, by rw [hstart, hplace]⟩⟩
    · intro hempty
      have hnil : parent = ⟨[]⟩ := congrArg Path.mk hempty
      rw [hnil] at hlast
      cases hlast
    · -- the text of the directory stands in the text of the path
      refine hnull ?_
      have hjoin := Text.joinWith_splitBy '/' parent.text
      rw [← hjoin] at hmem
      rcases Text.mem_joinWith hmem with ⟨piece, hpiece, hc⟩ | hc
      · have hpath : piece ∈ path.pieces := by
          rw [hpieces]
          exact List.mem_append_left rest hpiece
        exact Text.mem_of_mem_splitBy hpath hc
      · cases List.mem_singleton.mp hc

end FileTree

end MediaShelf
