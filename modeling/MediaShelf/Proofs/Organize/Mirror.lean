import MediaShelf.Organize.Basic
import MediaShelf.Proofs.Organize.Episodes
import MediaShelf.Proofs.Pattern.Destination
import MediaShelf.Proofs.Rename.FirstFree
import MediaShelf.Proofs.Resolver.Keeps

/-!
# Copies mirror renames

A destination is made by putting one piece of a rendered text after the other behind the root, so it
starts with the components of the root, whatever these are and whatever was rendered. That makes it
possible to plan every list of outcomes of a directory, and a copy gets the path below the directory
for copies that the rename has below the root. Destinations of one directory are all absolute or all
relative, so no two files are renamed to one place.

## Main definitions

* `Path.Continues` — a path goes on from another one by a relative path
* `FileOutcome.StaysIn` — a file that was identified goes to a destination of its directory
* `Rename.numbered` — a path with the number of a duplicate
* `Rename.Mirrors` — what is planned for a file when copies are made

## Main results

* `Pattern.continues_destination` — destinations go on from their root
* `keeps_identify_destination` — a file that was identified goes to a destination of its directory
* `planRenames_organize` — plans for the outcomes of a directory
* `goApart_planRenames` — renames of the files of a directory go to different places
-/

namespace MediaShelf

/-! ### Destinations -/

/-- The path goes on from the root by the relative path `rest`, which is what is left of it without
the root. Behind the root it makes the path again, and behind other paths it adds to them what the
path has behind the root; a root without text may leave a full stop at the start, which does not
count there. -/
structure Path.Continues (path root rest : Path) : Prop where
  stripped : path.stripRoot? root = some rest
  relative : rest.isAbsolute = false
  components : path.components = root.components ++ rest.components
  joined : (root.join rest).components = path.components
  carried : root.text ≠ [] → ∀ other : Path,
    (other.join rest).components = other.components ++ rest.components

/-- Behind other pieces a full stop is no component. -/
theorem Path.innerComponent?_ne_here (piece : List Char) : innerComponent? piece ≠ some .here := by
  unfold innerComponent?
  split
  · simp
  · split <;> simp

/-- Pieces without slashes put behind a path go on from it. -/
theorem Path.continues_foldl_push {pieces : List (List Char)}
    (hslash : ∀ piece ∈ pieces, '/' ∉ piece) (root : Path) :
    ∃ rest, (pieces.foldl Path.push root).Continues root rest := by
  obtain ⟨added, hadded, hfrom⟩ := exists_components_foldl_push pieces hslash root
  have hbelow : (pieces.foldl Path.push root).startsWith root := by
    rw [startsWith, List.isPrefixOf_iff_prefix, hadded]
    exact List.prefix_append _ added
  obtain ⟨rest, hrest, hcomponents, habsolute⟩ := stripRoot?_eq_some hbelow
  obtain rfl : added = rest.components :=
    List.append_cancel_left (hadded.symm.trans hcomponents)
  -- only a root without components could leave something absolute, and that root is relative
  have hrelative : rest.isAbsolute = false := by
    refine habsolute ?_
    by_cases hnone : root.components = []
    · refine .inr ?_
      rw [isAbsolute_foldl_push hslash, Bool.eq_false_iff, Ne, isAbsolute_iff_head?, hnone]
      simp
    · exact .inl hnone
  have hcarried : root.text ≠ [] → ∀ other : Path,
      (other.join rest).components = other.components ++ rest.components := by
    intro htext other
    refine components_join_of_no_here hrelative fun hhere => ?_
    obtain ⟨piece, -, hinner | ⟨hempty, -⟩⟩ := hfrom .here hhere
    · exact innerComponent?_ne_here piece hinner
    · exact htext hempty
  refine ⟨rest, hrest, hrelative, hcomponents, ?_, hcarried⟩
  rw [hcomponents]
  by_cases htext : root.text = []
  · rw [components_join hrelative, if_pos htext]
  · exact hcarried htext root

/-- A destination goes on from its root, whatever the pattern and the metadata are. -/
theorem Pattern.continues_destination (pattern : Pattern) (root : Path) (context : Context) :
    ∃ rest, (pattern.destination root context).Continues root rest := by
  refine Path.continues_foldl_push (fun piece hpiece hslash => ?_) root
  exact absurd (Text.not_of_mem_splitBy (List.mem_filter.mp hpiece).1 hslash) (by decide)

/-! ### Outcomes -/

section Outcomes

variable {σ : Type} {resolver : Resolver (StateM σ)} {dir : MediaDirectory} {refresh : Bool}

/-- The placement is at a destination of the directory. -/
def Placement.IsIn (dir : MediaDirectory) (placement : Placement) : Prop :=
  ∃ context, placement.destination = dir.pattern.destination dir.root context

/-- If the file was identified, it belongs into the directory. -/
def FileOutcome.StaysIn (dir : MediaDirectory) (outcome : FileOutcome) : Prop :=
  ∀ placement, outcome.result = .ok placement → placement.IsIn dir

theorem isIn_of_identifyEpisode {path : Path} {s : σ} {placement : Placement}
    (h : ((identifyEpisode resolver dir refresh path).run s).1 = .ok placement) :
    placement.IsIn dir := by
  obtain ⟨parsed, result, series, mid, hfound⟩ := exists_showFound h
  rw [hfound.run_identifyEpisode] at h
  obtain ⟨records, last, -, hrest⟩ := run_bind_ok h
  rw [hrest] at h
  cases records with
  | nil => cases h
  | cons first others =>
    cases h
    exact ⟨_, rfl⟩

theorem isIn_of_identifyFilm {path : Path} {s : σ} {placement : Placement}
    (h : ((identifyFilm resolver dir refresh path).run s).1 = .ok placement) :
    placement.IsIn dir := by
  obtain ⟨⟨result, details⟩, mid, -, hrest⟩ := run_bind_ok h
  rw [identifyFilm, hrest] at h
  obtain ⟨film, last, -, hplaced⟩ := run_bind_ok h
  rw [hplaced] at h
  cases h
  exact ⟨_, rfl⟩

/-- In either mode, a file that was identified goes to a destination of its directory. -/
theorem keeps_identify_destination (path : Path) :
    Keeps (fun _ => True) (identify resolver dir refresh path) (·.StaysIn dir) := by
  refine fun s _ => ⟨fun placement hplacement => ?_, trivial⟩
  unfold identify at hplacement
  cases hmode : dir.mode with
  | tvShow =>
    rw [hmode] at hplacement
    exact isIn_of_identifyEpisode hplacement
  | film =>
    rw [hmode] at hplacement
    exact isIn_of_identifyFilm hplacement

variable (tell : Event → StateM σ Unit)

/-- The same of files in a row. -/
theorem keeps_identifyAll_destination (total index : Nat) (paths : List Path) :
    Keeps (fun _ => True) (identifyAll resolver dir refresh tell total index paths)
      fun outcomes => ∀ outcome ∈ outcomes, outcome.StaysIn dir := by
  have htell (event : Event) : Keeps (fun _ => True) (tell event) fun _ => True :=
    fun _ _ => ⟨trivial, trivial⟩
  induction paths generalizing index with
  | nil => exact .pure fun outcome houtcome => absurd houtcome List.not_mem_nil
  | cons path paths ih =>
    refine (htell _).bind fun _ _ => (keeps_identify_destination path).bind fun first hfirst => ?_
    refine (htell _).bind fun _ _ => (ih (index + 1)).bind fun rest hrest => .pure ?_
    exact List.forall_mem_cons.mpr ⟨hfirst, hrest⟩

/-- The same of all files of a directory. -/
theorem keeps_organize_destination (tree : FileTree) :
    Keeps (fun _ => True) (organize resolver tree dir refresh tell)
      fun answer => ∀ outcomes, answer = .ok outcomes →
        ∀ outcome ∈ outcomes, outcome.StaysIn dir := by
  have htell (event : Event) : Keeps (fun _ => True) (tell event) fun _ => True :=
    fun _ _ => ⟨trivial, trivial⟩
  refine (htell _).bind fun _ _ => (htell _).bind fun _ _ => ?_
  cases dir.scan tree with
  | error e => exact .pure (by simp)
  | ok files =>
    refine (htell _).bind fun _ _ => ?_
    refine (keeps_identifyAll_destination tell _ _ files).bind fun outcomes houtcomes => ?_
    refine (htell _).bind fun _ _ => .pure ?_
    rintro _ ⟨⟩
    exact houtcomes

end Outcomes

/-! ### Plans -/

namespace Rename

/-- The path with the number of a duplicate, if there is one. -/
def numbered (path : Path) : Option Nat → Path
  | none => path
  | some k => withSuffix path k

/-- What is planned for a target when copies go to `out`: an operation that takes it to the same
place below `out` as its destination has below the root, or to a numbered variant of that place, and
nothing if it is there already. -/
def Mirrors (root out : Path) (target : Target) (made : Option Operation) : Prop :=
  ∃ rest suffix, target.destination.Continues root rest ∧
    let place := numbered (out.join rest) suffix
    made = if place.same target.source then none else some ⟨target.source, place, suffix⟩

theorem nthName_eq_numbered (path : Path) (n : Nat) :
    nthName path n = numbered path (nthSuffix n) := by
  cases n <;> rfl

variable {root out : Path} {targets aimed : List Target}

/-- A choice for a target that was carried over mirrors its destination. -/
theorem mirrors_of_redirects {target : Target} {choice : Choice} {rest : Path}
    (hrest : target.destination.Continues root rest)
    (h : Redirects root (some out) target choice.target) :
    Mirrors root out target choice.operation? := by
  obtain ⟨hsource, other, hother, -, hdestination⟩ := h
  obtain rfl : rest = other := Option.some.inj (hrest.stripped.symm.trans hother)
  refine ⟨rest, nthSuffix choice.number, hrest, ?_⟩
  rw [Choice.operation?, Choice.place, hdestination, hsource, nthName_eq_numbered]

/-- Targets whose destinations go on from the root have a plan. Copies mirror the destinations,
target by target. -/
theorem exists_plan (tree : FileTree) (output : Option Path)
    (hbelow : ∀ target ∈ targets, ∃ rest, target.destination.Continues root rest) :
    ∃ ops, plan tree root output targets = .ok ops ∧
      ∀ out, output = some out → ∃ made : List (Option Operation),
        ops = made.reduceOption ∧ List.Forall₂ (Mirrors root out) targets made := by
  have hstarts : output.isSome → ∀ target ∈ targets, target.destination.startsWith root := by
    intro _ target htarget
    obtain ⟨rest, hrest⟩ := hbelow target htarget
    rw [Path.startsWith, List.isPrefixOf_iff_prefix, hrest.components]
    exact List.prefix_append _ _
  obtain ⟨aimed, haimed, hredirects⟩ := exists_aimed hstarts
  obtain ⟨choices, hpending, -, hplan⟩ := exists_numbered tree
    ((aimed.filter (isSettled output)).map (·.destination))
    (aimed.filter fun target => !isSettled output target)
  refine ⟨_, (plan_eq_ok haimed).trans (by rw [hplan]), ?_⟩
  rintro out rfl
  -- no copy is left out because of where its file is, so there is a choice for each target
  obtain rfl : choices.map (·.target) = aimed := by
    rw [hpending]
    exact List.filter_eq_self.mpr fun target _ => rfl
  refine ⟨choices.map (·.operation?), ?_, ?_⟩
  · have hmade : (choices.map (·.operation?)).reduceOption =
        choices.filterMap (id ∘ (·.operation?)) := List.filterMap_map
    exact hmade.symm
  · rw [List.forall₂_map_right_iff] at hredirects ⊢
    refine List.forall₂_iff_get.mpr ⟨hredirects.length_eq, fun i hi hi' => ?_⟩
    obtain ⟨rest, hrest⟩ := hbelow _ (List.get_mem targets ⟨i, hi⟩)
    exact mirrors_of_redirects hrest (hredirects.get hi hi')

end Rename

/-- Targets are destinations of the directory. -/
theorem exists_destination_of_mem_targets {σ : Type} {resolver : Resolver (StateM σ)}
    {dir : MediaDirectory} {scanned : FileTree} {refresh : Bool} {tell : Event → StateM σ Unit}
    {s : σ} {outcomes : List FileOutcome}
    (h : (organize resolver scanned dir refresh tell s).1 = .ok outcomes) {target : Rename.Target}
    (htarget : target ∈ targets outcomes) :
    ∃ context, target.destination = dir.pattern.destination dir.root context := by
  have hstays : ∀ outcome ∈ outcomes, outcome.StaysIn dir :=
    (keeps_organize_destination tell scanned s trivial).1 outcomes h
  obtain ⟨outcome, houtcome, hplaced⟩ := List.mem_filterMap.mp htarget
  split at hplaced
  · rename_i placement hresult
    cases hplaced
    exact hstays outcome houtcome placement hresult
  · cases hplaced

/-- What `organize` makes of a directory, with any root, any pattern, any resolver and any files,
can be planned for any tree with or without a directory for copies. With one, each file that was
identified is to be copied, possibly under a number, to where the relative path that leads from the
root to its destination leads from the directory for copies. -/
theorem planRenames_organize {σ : Type} (resolver : Resolver (StateM σ)) (dir : MediaDirectory)
    (scanned : FileTree) (refresh : Bool) (tell : Event → StateM σ Unit) (s : σ)
    (outcomes : List FileOutcome)
    (h : (organize resolver scanned dir refresh tell s).1 = .ok outcomes) (tree : FileTree)
    (output : Option Path) :
    ∃ ops, planRenames tree dir output outcomes = .ok ops ∧
      ∀ out, output = some out → ∃ made : List (Option Rename.Operation),
        ops = made.reduceOption ∧
          List.Forall₂ (Rename.Mirrors dir.root out) (targets outcomes) made := by
  refine Rename.exists_plan tree output fun target htarget => ?_
  obtain ⟨context, hdestination⟩ := exists_destination_of_mem_targets h htarget
  rw [hdestination]
  exact dir.pattern.continues_destination dir.root context

/-- No two of the files that `organize` has identified are planned to be renamed to one place, as
long as their destinations are plain paths: these are absolute or relative as the root is. -/
theorem goApart_planRenames {σ : Type} {resolver : Resolver (StateM σ)} {dir : MediaDirectory}
    {scanned : FileTree} {refresh : Bool} {tell : Event → StateM σ Unit} {s : σ}
    {outcomes : List FileOutcome}
    (h : (organize resolver scanned dir refresh tell s).1 = .ok outcomes) {tree : FileTree}
    (hplain : ∀ target ∈ targets outcomes, target.destination.IsPlain)
    {ops : List Rename.Operation} (hplan : planRenames tree dir none outcomes = .ok ops) :
    Rename.GoApart tree ops := by
  have habsolute : ∀ target ∈ targets outcomes,
      target.destination.isAbsolute = dir.root.isAbsolute := by
    intro target htarget
    obtain ⟨context, hdestination⟩ := exists_destination_of_mem_targets h htarget
    rw [hdestination, Pattern.isAbsolute_destination]
  exact Rename.plan_apart hplan hplain habsolute

/-- With nobody listening, a directory that can be searched has the outcomes of its files in
order. -/
theorem organize_of_scan {σ : Type} {resolver : Resolver (StateM σ)} {dir : MediaDirectory}
    {tree : FileTree} {files : List Path} (hscan : dir.scan tree = .ok files) (refresh : Bool)
    (s : σ) :
    (organize resolver tree dir refresh (fun _ => pure ()) s).1 =
      .ok (identifyAll resolver dir refresh (fun _ => pure ()) files.length 0 files s).1 := by
  simp only [organize, hscan]
  rfl

/-- Two files of one episode, a pattern with slashes and a full stop in front, and a root that is
written with more than its name. -/
theorem planRenames_organize_twice :
    let dir : MediaDirectory :=
      { root := ⟨"/tv//.".toList⟩, mode := .tvShow
        pattern := ⟨"//./%n//%s %e.%x", [.literal "//./".toList, .token .showName,
          .literal ['/', '/'], .token .season, .literal [' '], .token .episode, .literal ['.'],
          .token .extension]⟩
        sources := ["tvmaze"], extensions := ["mkv"], stripTokens := [], ignorePatterns := []
        pruneEmptyDirs := false }
    let resolver : Resolver (StateM Unit) := ⟨[], [.ofAnswers "tvmaze" threeNumbers]⟩
    let tree : FileTree :=
      { entries := [([['t', 'v']], .directory), ([['t', 'v'], "Lost 1x01.mkv".toList],
          .file .empty 0), ([['t', 'v'], "Lost S01E01.mkv".toList], .file .empty 0)] }
    let out : Path := ⟨['/', 'o']⟩
    let ops : List Rename.Operation :=
      [⟨⟨"/tv//./Lost 1x01.mkv".toList⟩, ⟨"/o/Lost/01 01.mkv".toList⟩, none⟩,
        ⟨⟨"/tv//./Lost S01E01.mkv".toList⟩, ⟨"/o/Lost/01 01 (2).mkv".toList⟩, some 2⟩]
    ∃ outcomes, (organize resolver tree dir false (fun _ => pure ()) ()).1 = .ok outcomes ∧
      planRenames tree dir (some out) outcomes = .ok ops ∧
      ∃ made : List (Option Rename.Operation), ops = made.reduceOption ∧
        List.Forall₂ (Rename.Mirrors dir.root out) (targets outcomes) made := by
  intro dir resolver tree out ops
  let files : List Path := [⟨"/tv//./Lost 1x01.mkv".toList⟩, ⟨"/tv//./Lost S01E01.mkv".toList⟩]
  let outcomes := (identifyAll resolver dir false (fun _ => pure ()) 2 0 files ()).1
  have hscan : dir.scan tree = .ok files := by
    have hfound : dir.filesBelow tree looksLikeVideo (tree.entries.length + 1) dir.root =
        .ok files := by decide +kernel
    rw [MediaDirectory.scan, hfound]
    exact congrArg Except.ok (List.mergeSort_of_pairwise (by decide))
  have hanswer : (organize resolver tree dir false (fun _ => pure ()) ()).1 = .ok outcomes :=
    organize_of_scan hscan false ()
  have hplan : planRenames tree dir (some out) outcomes = .ok ops := by decide +kernel
  obtain ⟨planned, hplanned, hmirrors⟩ := planRenames_organize resolver dir tree false
    (fun _ => pure ()) () outcomes hanswer tree (some out)
  obtain rfl := Except.ok.inj (hplanned.symm.trans hplan)
  exact ⟨outcomes, hanswer, hplan, hmirrors out rfl⟩

end MediaShelf
