import Mathlib.Data.List.Nodup
import Mathlib.Data.List.Perm.Subperm
import Mathlib.Tactic.Push
import MediaShelf.Proofs.FileTree.Walk
import MediaShelf.Proofs.Path.FileName
import MediaShelf.Proofs.Text.Numeral
import MediaShelf.Rename.Plan

/-!
# What is planned

Of a path and its numbered variants one is always free, because there are more variants than
entries and claims that could stand in the way. So every planned destination is free on disk and
claimed by no other operation.

## Main definitions

* `Rename.IsWayDown` — what stands in front of a name whose directory is kept
* `Rename.Aimed` — a planned operation goes to a free place

## Main results

* `Rename.withSuffix_append_dot` — where the number of a variant stands
* `Rename.freeName_isFree` — the chosen name is free
* `Rename.planFrom_aimed`, `Rename.planFrom_pairwise` — planned destinations are free and differ
* `Rename.plan_apart` — planned destinations that are spelled alike are different places
-/

namespace MediaShelf.Rename

open MediaShelf.Path (IsName)

variable {tree : FileTree} {claimed : List Path} {source path : Path} {absolute : Bool}

/-! ### Numbered names -/

/-- The stem of the last name of a path. -/
def lastStem (path : Path) : List Char := path.stem?.getD []

/-- The extension of the last name of a path, with its full stop. -/
def lastExtension (path : Path) : List Char := (path.suffix?.map ('.' :: ·)).getD []

theorem withSuffix_eq (path : Path) (k : Nat) :
    withSuffix path k =
      path.withName (lastStem path ++ ([' ', '('] ++ Text.decimal k ++ [')']) ++
        lastExtension path) := by
  unfold withSuffix lastStem lastExtension
  cases path.suffix? <;> rfl

theorem isName_suffixed (path : Path) (k : Nat) :
    IsName (lastStem path ++ ([' ', '('] ++ Text.decimal k ++ [')']) ++ lastExtension path) := by
  -- the blank in front of the number keeps the name from being a full stop or two
  have hblank : ' ' ∈ lastStem path ++ ([' ', '('] ++ Text.decimal k ++ [')']) ++
      lastExtension path := by simp
  have hparts : '/' ∉ lastStem path ∧ '/' ∉ lastExtension path := by
    unfold lastStem lastExtension Path.stem? Path.suffix?
    cases hname : path.name? with
    | none => simp
    | some name =>
      have hmem := List.mem_of_getLast? (Path.getLast?_of_name? hname)
      obtain ⟨hstem, hext⟩ :=
        Path.no_slash_splitExtension (Path.isName_of_mem_components hmem).no_slash
      refine ⟨hstem, ?_⟩
      cases hsuffix : Path.extension? name with
      | none => simp [hsuffix]
      | some ext => simpa [hsuffix] using hext ext hsuffix
  have hdigits : '/' ∉ Text.decimal k := fun hmem => by
    simpa using Text.isDigit_of_mem_decimal hmem
  constructor
  · exact List.ne_nil_of_mem hblank
  · intro heq
    rw [heq] at hblank
    simp at hblank
  · intro heq
    rw [heq] at hblank
    simp at hblank
  · simp [hparts, hdigits]

/-- What may stand in front of the name of a file for its directory to be kept: nothing, or the way
down to a directory with a name. -/
def IsWayDown (lead : List Char) : Prop :=
  lead = [] ∨ ∃ above folder, IsName folder ∧ lead = above ++ '/' :: folder ++ ['/']

/-- The number comes between the last full stop of a path and what is in front of it. -/
theorem withSuffix_append_dot {lead front ext : List Char} (hlead : IsWayDown lead)
    (hname : IsName (front ++ '.' :: ext)) (hext : '.' ∉ ext) (hne : front ≠ []) (k : Nat) :
    withSuffix ⟨lead ++ (front ++ '.' :: ext)⟩ k =
      ⟨lead ++ (front ++ ([' ', '('] ++ Text.decimal k ++ [')']) ++ '.' :: ext)⟩ := by
  have hsplit := Path.splitExtension_append_dot hext hne hname.ne_up
  have hlast : Path.name? ⟨lead ++ (front ++ '.' :: ext)⟩ = some (front ++ '.' :: ext) := by
    rcases hlead with rfl | ⟨above, folder, hfolder, rfl⟩
    · exact Path.name?_name hname
    · simpa using Path.name?_append_name hname (above ++ '/' :: folder)
  have hstem : lastStem ⟨lead ++ (front ++ '.' :: ext)⟩ = front := by
    simp [lastStem, Path.stem?, hlast, Path.stem, hsplit]
  have hextension : lastExtension ⟨lead ++ (front ++ '.' :: ext)⟩ = '.' :: ext := by
    simp [lastExtension, Path.suffix?, hlast, Path.extension?, hsplit]
  have hother := (isName_suffixed ⟨lead ++ (front ++ '.' :: ext)⟩ k).no_slash
  rw [hstem, hextension] at hother
  rw [withSuffix_eq, hstem, hextension]
  rcases hlead with rfl | ⟨above, folder, hfolder, rfl⟩
  · exact Path.withName_name hname hother
  · simpa using Path.withName_append_name hfolder hname hother above

/-- What all variants of a path have in front of their names. -/
def lastFolder (path : Path) : List Path.Component :=
  if path.name?.isSome then path.components.dropLast else path.components

theorem components_withSuffix (path : Path) (k : Nat) :
    (withSuffix path k).components =
      lastFolder path ++ [.name (lastStem path ++ ([' ', '('] ++ Text.decimal k ++ [')']) ++
        lastExtension path)] := by
  rw [withSuffix_eq]
  exact Path.components_withName (isName_suffixed path k)

/-- Variants with different numbers are different. -/
theorem withSuffix_injective {j k : Nat}
    (h : (withSuffix path j).components = (withSuffix path k).components) : j = k := by
  rw [components_withSuffix, components_withSuffix] at h
  have hname := Path.Component.name.inj (List.singleton_inj.mp (List.append_cancel_left h))
  have hnumber := List.append_cancel_left (List.append_cancel_right hname)
  exact Text.decimal_injective (List.append_cancel_left (List.append_cancel_right hnumber))

theorem isPlain_withSuffix (h : path.IsPlain) (k : Nat) : (withSuffix path k).IsPlain := by
  rw [withSuffix_eq]
  exact h.withName (isName_suffixed path k)

theorem isAbsolute_withSuffix (path : Path) (k : Nat) :
    (withSuffix path k).isAbsolute = path.isAbsolute := by
  rw [withSuffix_eq]
  exact Path.isAbsolute_withName (isName_suffixed path k)

/-! ### Free names -/

theorem isClaimed_iff : isClaimed claimed path ↔ path.components ∈ claimed.map Path.components := by
  simp [isClaimed, Path.same]

theorem isClaimed_cons_eq_false {place : Path} :
    isClaimed (place :: claimed) path = false ↔
      place.components ≠ path.components ∧ isClaimed claimed path = false := by
  simp [isClaimed, Path.same]

/-- Claims stand in the way of as many variants as there are claims, at most. -/
theorem length_claimed_le (numbers : List Nat) (hnodup : numbers.Nodup)
    (h : ∀ k ∈ numbers, isClaimed claimed (withSuffix path k)) :
    numbers.length ≤ claimed.length := by
  have hkeys : (numbers.map fun k => (withSuffix path k).components).Nodup :=
    hnodup.map fun _ _ hsame => withSuffix_injective hsame
  have hsub : (numbers.map fun k => (withSuffix path k).components) ⊆
      claimed.map Path.components := by
    intro components hmem
    obtain ⟨k, hk, rfl⟩ := List.mem_map.mp hmem
    exact isClaimed_iff.mp (h k hk)
  simpa using (hkeys.subperm hsub).length_le

/-- Entries stand in the way of as many variants as there are entries, at most. -/
theorem length_occupied_le (path : Path) (numbers : List Nat) (hnodup : numbers.Nodup)
    (h : ∀ k ∈ numbers, tree.hasEntry (withSuffix path k)) :
    numbers.length ≤ tree.entries.length := by
  let place (k : Nat) := FileTree.walk tree.workingDirectory (withSuffix path k).components
  have hplace (k : Nat) : place k = FileTree.walk tree.workingDirectory (lastFolder path) ++
      [lastStem path ++ ([' ', '('] ++ Text.decimal k ++ [')']) ++ lastExtension path] := by
    simp only [place, components_withSuffix, FileTree.walk_append]
    rfl
  have hinjective : Function.Injective place := by
    intro j k hsame
    rw [hplace, hplace, List.append_cancel_left_eq, List.singleton_inj] at hsame
    have hcomponents : (withSuffix path j).components = (withSuffix path k).components := by
      rw [components_withSuffix, components_withSuffix, hsame]
    exact withSuffix_injective hcomponents
  have hsub : numbers.map place ⊆ tree.entries.map (·.1) := by
    intro spot hmem
    obtain ⟨k, hk, rfl⟩ := List.mem_map.mp hmem
    obtain ⟨spot, hlocate, hsome⟩ := FileTree.hasEntry_iff.mp (h k hk)
    have hne : place k ≠ [] := by
      rw [hplace]
      exact List.concat_ne_nil _ _
    rw [FileTree.locate_eq_walk hlocate, FileTree.get?_of_ne_nil hne] at hsome
    obtain ⟨pair, hpair, hkey⟩ := List.lookup_isSome_iff.mp hsome
    exact List.mem_map.mpr ⟨pair, hpair, (eq_of_beq hkey).symm⟩
  simpa using ((hnodup.map hinjective).subperm hsub).length_le

/-- One of the variants below the limit is free: there are more of them than claims and entries. -/
theorem exists_free (tree : FileTree) (claimed : List Path) (source path : Path) :
    ∃ k ∈ List.range' 2 (suffixLimit tree claimed - 2),
      isFree tree claimed source (withSuffix path k) := by
  by_contra hnone
  push Not at hnone
  -- every variant is claimed or occupied, and different variants are so by different things
  let numbers := List.range' 2 (suffixLimit tree claimed - 2)
  let taken := fun k => isClaimed claimed (withSuffix path k)
  have hnodup : numbers.Nodup := List.nodup_range'
  have hclaimed : (numbers.filter taken).length ≤ claimed.length :=
    length_claimed_le _ (hnodup.filter _) fun k hk => (List.mem_filter.mp hk).2
  have hoccupied : (numbers.filter fun k => !taken k).length ≤ tree.entries.length := by
    refine length_occupied_le path _ (hnodup.filter _) fun k hk => ?_
    obtain ⟨hmem, hfree⟩ := List.mem_filter.mp hk
    have hbusy := hnone k hmem
    simp only [isFree] at hbusy
    simp only [taken] at hfree
    simp_all
  have hsum := List.length_eq_length_filter_add (l := numbers) taken
  have hlength : numbers.length = tree.entries.length + claimed.length + 1 := by
    simp [numbers, suffixLimit]
  omega

/-- The chosen name is free, and plain if the path is. -/
theorem freeName_isFree (tree : FileTree) (claimed : List Path) (source : Path)
    (hplain : path.IsPlain) :
    let chosen := (freeName (isFree tree claimed source) (suffixLimit tree claimed) path).1
    isFree tree claimed source chosen ∧ chosen.IsPlain ∧ chosen.isAbsolute = path.isAbsolute := by
  unfold freeName
  split
  · rename_i hfree
    exact ⟨hfree, hplain, rfl⟩
  · split
    · rename_i k hfind
      have hfree : isFree tree claimed source (withSuffix path k) := by
        simpa using List.find?_some hfind
      exact ⟨hfree, isPlain_withSuffix hplain k, isAbsolute_withSuffix path k⟩
    · rename_i hfind
      obtain ⟨k, hmem, hfree⟩ := exists_free tree claimed source path
      exact absurd hfree (List.find?_eq_none.mp hfind k hmem)

/-! ### Plans -/

/-- The operation goes to a plain path at which there is nothing. -/
structure Aimed (tree : FileTree) (op : Operation) : Prop where
  plain : op.destination.IsPlain
  vacant : tree.hasEntry op.destination = false

/-- No two operations go to one place, however their destinations are spelled. -/
def GoApart (tree : FileTree) (ops : List Operation) : Prop :=
  ops.Pairwise fun a b => tree.spelled a.destination ≠ tree.spelled b.destination

instance (tree : FileTree) (ops : List Operation) : Decidable (GoApart tree ops) :=
  inferInstanceAs (Decidable (ops.Pairwise _))

/-- What is planned for a target besides the plan for those behind it. -/
theorem planFrom_cons (tree : FileTree) (claimed : List Path) {target : Target}
    (targets : List Target) (hplain : target.destination.IsPlain) :
    ∃ place : Path, isClaimed claimed place = false ∧
      place.isAbsolute = target.destination.isAbsolute ∧
      (planFrom tree claimed (target :: targets) = planFrom tree (place :: claimed) targets ∨
        ∃ suffix, Aimed tree ⟨target.source, place, suffix⟩ ∧
          planFrom tree claimed (target :: targets) =
            ⟨target.source, place, suffix⟩ :: planFrom tree (place :: claimed) targets) := by
  obtain ⟨source, destination⟩ := target
  obtain ⟨hfree, hchosen, habs⟩ := freeName_isFree tree claimed source hplain
  rw [planFrom]
  generalize freeName (isFree tree claimed source) (suffixLimit tree claimed) destination = chosen
    at hfree hchosen habs ⊢
  obtain ⟨place, suffix⟩ := chosen
  simp only [isFree, Bool.and_eq_true, Bool.or_eq_true, Bool.not_eq_true'] at hfree
  refine ⟨place, hfree.1, habs, ?_⟩
  dsimp only
  split
  · exact .inl rfl
  · rename_i hother
    exact .inr ⟨suffix, ⟨hchosen, hfree.2.resolve_right hother⟩, rfl⟩

variable {targets : List Target}

/-- Every planned operation goes to a free place that was not claimed before. -/
theorem planFrom_aimed (hplain : ∀ target ∈ targets, target.destination.IsPlain) :
    ∀ op ∈ planFrom tree claimed targets,
      Aimed tree op ∧ isClaimed claimed op.destination = false := by
  induction targets generalizing claimed with
  | nil => simp [planFrom]
  | cons target targets ih =>
    obtain ⟨place, hunclaimed, -, hplan⟩ := planFrom_cons tree claimed targets
      (hplain _ List.mem_cons_self)
    have hrest : ∀ op ∈ planFrom tree (place :: claimed) targets,
        Aimed tree op ∧ isClaimed claimed op.destination = false := by
      intro op hop
      obtain ⟨haimed, hfree⟩ := ih (fun t ht => hplain t (List.mem_cons_of_mem _ ht)) op hop
      exact ⟨haimed, (isClaimed_cons_eq_false.mp hfree).2⟩
    rcases hplan with hplan | ⟨suffix, haimed, hplan⟩
    · rw [hplan]
      exact hrest
    · rw [hplan]
      intro op hop
      rcases List.mem_cons.mp hop with rfl | hop
      · exact ⟨haimed, hunclaimed⟩
      · exact hrest op hop

/-- No two planned operations have the same destination. -/
theorem planFrom_pairwise (hplain : ∀ target ∈ targets, target.destination.IsPlain) :
    (planFrom tree claimed targets).Pairwise fun a b =>
      a.destination.components ≠ b.destination.components := by
  induction targets generalizing claimed with
  | nil => exact .nil
  | cons target targets ih =>
    have hplain' := fun t ht => hplain t (List.mem_cons_of_mem _ ht)
    obtain ⟨place, -, -, hplan | ⟨suffix, -, hplan⟩⟩ := planFrom_cons tree claimed
      targets (hplain _ List.mem_cons_self)
    · rw [hplan]
      exact ih hplain'
    · rw [hplan]
      refine List.pairwise_cons.mpr ⟨?_, ih hplain'⟩
      intro op hop hsame
      -- the place was claimed before the others were chosen
      obtain ⟨-, hfree⟩ := planFrom_aimed hplain' op hop
      exact (isClaimed_cons_eq_false.mp hfree).1 hsame

/-- Planned destinations are absolute where those of the targets are. -/
theorem planFrom_isAbsolute (hplain : ∀ target ∈ targets, target.destination.IsPlain)
    (habs : ∀ target ∈ targets, target.destination.isAbsolute = absolute) :
    ∀ op ∈ planFrom tree claimed targets, op.destination.isAbsolute = absolute := by
  induction targets generalizing claimed with
  | nil => simp [planFrom]
  | cons target targets ih =>
    obtain ⟨place, -, hplace, hplan⟩ := planFrom_cons tree claimed targets
      (hplain _ List.mem_cons_self)
    have hrest : ∀ op ∈ planFrom tree (place :: claimed) targets,
        op.destination.isAbsolute = absolute :=
      ih (fun t ht => hplain t (List.mem_cons_of_mem _ ht))
        (fun t ht => habs t (List.mem_cons_of_mem _ ht))
    rcases hplan with hplan | ⟨suffix, -, hplan⟩
    · rw [hplan]
      exact hrest
    · rw [hplan]
      intro op hop
      rcases List.mem_cons.mp hop with rfl | hop
      · exact hplace.trans (habs _ List.mem_cons_self)
      · exact hrest op hop

/-- The sources of planned operations are sources of targets, in their order. -/
theorem planFrom_sources (tree : FileTree) (claimed : List Path) (targets : List Target) :
    ((planFrom tree claimed targets).map (·.source)).Sublist (targets.map (·.source)) := by
  induction targets generalizing claimed with
  | nil => exact .slnil
  | cons target targets ih =>
    rw [planFrom]
    dsimp only
    split
    · exact (ih _).cons _
    · exact (ih _).cons_cons _

/-- The plan concerns the targets that are not in their place, while the places of the others are
claimed. -/
theorem plan_eq_ok {root : Path} {output : Option Path} {aimed : List Target}
    (h : targets.mapM (aim root output) = .ok aimed) :
    plan tree root output targets =
      .ok (planFrom tree ((aimed.filter (isSettled output)).map (·.destination))
        (aimed.filter fun target => !isSettled output target)) := by
  rw [plan, h]
  simp [Bind.bind, Except.bind, List.partition_eq_filter_filter, Pure.pure, Except.pure,
    Function.comp_def]

/-- The same without a directory for copies, where all destinations are as given. -/
theorem plan_none (tree : FileTree) (root : Path) (targets : List Target) :
    plan tree root none targets =
      .ok (planFrom tree ((targets.filter (isSettled none)).map (·.destination))
        (targets.filter fun target => !isSettled none target)) := by
  refine plan_eq_ok ?_
  induction targets with
  | nil => rfl
  | cons target targets ih =>
    rw [List.mapM_cons, ih]
    rfl

/-- Planned destinations are different paths. If all of them are absolute or all are relative, as
below one root, they are different places. -/
theorem plan_apart {root : Path} {ops : List Operation}
    (hplan : plan tree root none targets = .ok ops)
    (hplain : ∀ target ∈ targets, target.destination.IsPlain)
    (habs : ∀ target ∈ targets, target.destination.isAbsolute = absolute) : GoApart tree ops := by
  rw [plan_none, Except.ok.injEq] at hplan
  have hpending : (targets.filter fun target => !isSettled none target).Sublist targets :=
    List.filter_sublist
  have hplain' := fun target htarget => hplain target (hpending.subset htarget)
  have habs' := fun target htarget => habs target (hpending.subset htarget)
  subst hplan
  refine (planFrom_pairwise hplain').imp_of_mem fun {a b} ha hb hne hsame => hne ?_
  refine FileTree.components_eq_of_spelled (planFrom_aimed hplain' a ha).1.plain
    (planFrom_aimed hplain' b hb).1.plain ?_ hsame
  rw [planFrom_isAbsolute hplain' habs' a ha, planFrom_isAbsolute hplain' habs' b hb]

end MediaShelf.Rename
