import MediaShelf.Proofs.Rename.Move
import MediaShelf.Proofs.Rename.Numbered

/-!
# Planning again after a run

A name is passed over when a file of the plan or anything on disk has it. Names that the plan gives
away are taken for good, but what was on disk may be moved away by the same plan. So after a run
everything is in its place as long as nothing disappeared from a name that was passed over; where
something did, the next plan takes the name.

## Main definitions

* `Rename.Target.moved` — a target with its file where the operations took it
* `Rename.PassedOver` — a name that was tried in vain because something was there
* `Rename.Drawn` — the choices of a plan

## Main results

* `Rename.Numbered.again` — what stays where it is takes the same numbers again
* `Rename.Drawn.plan_moved` — when the second plan is empty
* `Rename.plan_moveAll` — the same after the operations were carried out
-/

namespace MediaShelf.Rename

open FileTree (KeepsDirectories)

variable {tree after : FileTree} {claimed taken : List Path} {path other : Path}
  {choice : Choice} {choices : List Choice} {targets : List Target} {target : Target}

theorem isPlain_congr (h : path.components = other.components) (hother : other.IsPlain) :
    path.IsPlain := by
  intro c hc
  rw [h] at hc
  exact hother c hc

/-! ### Where things stand -/

/-- Something is where the names of the path lead. -/
def Stands (tree : FileTree) (path : Path) : Prop := (tree.get? (tree.spelled path)).isSome

theorem stands_congr (h : path.components = other.components) :
    Stands tree path ↔ Stands tree other := by
  have habs : path.isAbsolute = other.isAbsolute := by
    rw [Bool.eq_iff_iff, Path.isAbsolute_iff_head?, Path.isAbsolute_iff_head?, h]
  rw [Stands, Stands, FileTree.spelled, FileTree.spelled, FileTree.startOf, FileTree.startOf, habs,
    Path.names, Path.names, h]

theorem stands_of_hasEntry (hplain : path.IsPlain) (h : tree.hasEntry path) : Stands tree path := by
  obtain ⟨place, hlocate, hsome⟩ := FileTree.hasEntry_iff.mp h
  rw [FileTree.locate_eq_spelled hplain hlocate] at hsome
  exact hsome

/-- A path that named something names what stands there now, while directories are kept. -/
theorem hasEntry_of_stands (hkeeps : KeepsDirectories tree after) (hplain : path.IsPlain)
    (h : tree.hasEntry path) (hstands : Stands after path) : after.hasEntry path := by
  obtain ⟨place, hlocate, -⟩ := FileTree.hasEntry_iff.mp h
  have hlater := hkeeps.locate hlocate
  refine FileTree.hasEntry_iff.mpr ⟨place, hlater, ?_⟩
  rw [FileTree.locate_eq_spelled hplain hlater]
  exact hstands

/-! ### Targets after a run -/

/-- The target with its file at the destination of its operation, if there is one. -/
def Target.moved (ops : List Operation) (target : Target) : Target :=
  match ops.find? (·.source == target.source) with
  | some op => { target with source := op.destination }
  | none => target

theorem Target.moved_eq_self {ops : List Operation} (h : ∀ op ∈ ops, op.source ≠ target.source) :
    target.moved ops = target := by
  have hnone : ops.find? (·.source == target.source) = none := by simpa using h
  rw [Target.moved, hnone]

/-- A name that was tried for a target before the one that was taken, and was not free because
something was there. -/
def PassedOver (tree : FileTree) (targets : List Target) (ops : List Operation) (path : Path) :
    Prop :=
  ∃ target ∈ targets, ∃ j k, j < k ∧ (target.moved ops).source.same (nthName target.destination k) ∧
    path = nthName target.destination j ∧ tree.hasEntry path

namespace Choice

/-- The target with its file in the chosen place. -/
def goal (choice : Choice) : Target :=
  if choice.place.same choice.target.source then choice.target
  else { choice.target with source := choice.place }

/-- The same number for the target in the chosen place. -/
def again (choice : Choice) : Choice := ⟨choice.goal, choice.number⟩

@[simp] theorem destination_goal (choice : Choice) :
    choice.goal.destination = choice.target.destination := by
  unfold goal
  split <;> rfl

theorem components_goal (choice : Choice) :
    choice.goal.source.components = choice.place.components := by
  unfold goal
  split
  · rename_i hsame
    exact (same_iff.mp hsame).symm
  · rfl

@[simp] theorem place_again (choice : Choice) : choice.again.place = choice.place := by
  simp [again, place]

theorem operation?_again (choice : Choice) : choice.again.operation? = none := by
  have hsame : choice.again.place.same choice.again.target.source := by
    rw [same_iff, place_again]
    exact choice.components_goal.symm
  rw [operation?, if_pos hsame]

/-- The file is at its plain destination if the first name was taken. -/
theorem isSettled_goal (choice : Choice) : isSettled none choice.goal ↔ choice.number = 0 := by
  have hsettled : isSettled none choice.goal ↔
      choice.goal.source.components = (nthName choice.target.destination 0).components := by
    simp [isSettled, same_iff, nthName]
  rw [hsettled, components_goal]
  constructor
  · exact fun h => nthName_injective h
  · intro hzero
    rw [place, hzero]

end Choice

/-! ### The same choices again -/

/-- If the names that were passed over on disk are not left empty, the targets that have numbers in
their names keep them: all the others have their places already. -/
theorem Numbered.again (h : Numbered tree claimed choices)
    (hclaimed : ∀ path, isClaimed claimed path → isClaimed taken path)
    (hplain : ∀ choice ∈ choices, choice.number = 0 → isClaimed taken choice.place)
    (hfree : ∀ choice ∈ choices, choice.number ≠ 0 → isClaimed taken choice.place = false)
    (hkept : ∀ choice ∈ choices, ∀ j < choice.number,
      tree.hasEntry (nthName choice.target.destination j) →
        after.hasEntry (nthName choice.target.destination j)) :
    Numbered after taken ((choices.filter (·.number ≠ 0)).map (·.again)) := by
  have hpairwise := h.pairwise
  induction h generalizing taken with
  | nil => exact .nil taken
  | @cons claimed choice choices hchosen hfirst hrest ih =>
    obtain ⟨hapart, hpairwise⟩ := List.pairwise_cons.mp hpairwise
    have hplain' := fun c hc => hplain c (List.mem_cons_of_mem _ hc)
    have hfree' := fun c hc => hfree c (List.mem_cons_of_mem _ hc)
    have hkept' := fun c hc => hkept c (List.mem_cons_of_mem _ hc)
    by_cases hzero : choice.number = 0
    · rw [List.filter_cons_of_neg (by simpa using hzero)]
      refine ih (fun path hpath => ?_) hplain' hfree' hkept' hpairwise
      -- its place is among those that are taken from the start
      rcases isClaimed_cons.mp hpath with hsame | hold
      · have hplace := isClaimed_iff.mp (hplain choice List.mem_cons_self hzero)
        rw [hsame] at hplace
        exact isClaimed_iff.mpr hplace
      · exact hclaimed path hold
    · rw [List.filter_cons_of_pos (by simpa using hzero), List.map_cons]
      have hgoal : choice.again.target.source.components = choice.place.components :=
        choice.components_goal
      have htarget : choice.again.target.destination = choice.target.destination :=
        choice.destination_goal
      refine .cons ?_ (fun j hj => ?_) ?_
      · have hunclaimed := hfree choice List.mem_cons_self hzero
        simp [isFree, hunclaimed, same_iff, hgoal]
      · rw [htarget]
        apply isFree_eq_false_iff.mpr
        rcases isFree_eq_false_iff.mp (hfirst j hj) with hold | ⟨hentry, -⟩
        · exact .inl (hclaimed _ hold)
        · refine .inr ⟨hkept choice List.mem_cons_self j hj hentry, fun hsame => ?_⟩
          -- only the chosen name is that of the file
          exact absurd (nthName_injective (hsame.trans hgoal)) (Nat.ne_of_lt hj)
      · rw [Choice.place_again]
        refine ih (fun path hpath => ?_) (fun c hc hzero => ?_) (fun c hc hnumber => ?_) hkept'
          hpairwise
        · exact isClaimed_cons.mpr ((isClaimed_cons.mp hpath).imp_right (hclaimed path))
        · exact isClaimed_cons.mpr (.inr (hplain' c hc hzero))
        · exact isClaimed_cons_eq_false.mpr ⟨hapart c hc, hfree' c hc hnumber⟩

/-- Where all files are in their places and something stands in each place that is taken, something
stands under every name that was passed over. -/
theorem Numbered.stands (h : Numbered tree taken choices)
    (hdestinations : ∀ choice ∈ choices, choice.target.destination.IsPlain)
    (htaken : ∀ path, isClaimed taken path → Stands tree path)
    (hplaces : ∀ choice ∈ choices, Stands tree choice.place) {j : Nat} (hchoice : choice ∈ choices)
    (hj : j < choice.number) : Stands tree (nthName choice.target.destination j) := by
  induction h with
  | nil => cases hchoice
  | @cons taken first choices hfree hfirst hrest ih =>
    rcases List.mem_cons.mp hchoice with rfl | hchoice
    · rcases isFree_eq_false_iff.mp (hfirst j hj) with hclaimed | ⟨hentry, -⟩
      · exact htaken _ hclaimed
      · exact stands_of_hasEntry (isPlain_nthName (hdestinations _ List.mem_cons_self) j) hentry
    · refine ih (fun c hc => hdestinations c (List.mem_cons_of_mem _ hc)) (fun path hpath => ?_)
        (fun c hc => hplaces c (List.mem_cons_of_mem _ hc)) hchoice
      rcases isClaimed_cons.mp hpath with hsame | hold
      · exact (stands_congr hsame).mp (hplaces first List.mem_cons_self)
      · exact htaken path hold

/-! ### Choices of a plan -/

/-- The choices of the plan for targets with different files: one for each target that is not in its
place, while the places of the others are claimed. -/
structure Drawn (tree : FileTree) (targets : List Target) (choices : List Choice) : Prop where
  pending : choices.map (·.target) = targets.filter fun target => !isSettled none target
  numbered : Numbered tree ((targets.filter (isSettled none)).map (·.destination)) choices
  sources : (targets.map (·.source)).Nodup

/-- The operations for choices. -/
def operations (choices : List Choice) : List Operation := choices.filterMap (·.operation?)

theorem exists_drawn (tree : FileTree) (root : Path)
    (hsources : (targets.map (·.source)).Nodup) :
    ∃ choices, Drawn tree targets choices ∧
      plan tree root none targets = .ok (operations choices) := by
  obtain ⟨choices, hpending, hnumbered, hplan⟩ := exists_numbered tree
    ((targets.filter (isSettled none)).map (·.destination))
    (targets.filter fun target => !isSettled none target)
  exact ⟨choices, ⟨hpending, hnumbered, hsources⟩, by rw [plan_none, hplan, operations]⟩

theorem mem_operations {op : Operation} (hop : op ∈ operations choices) :
    ∃ choice ∈ choices, choice.place.same choice.target.source = false ∧
      op = ⟨choice.target.source, choice.place, nthSuffix choice.number⟩ := by
  obtain ⟨choice, hchoice, hsome⟩ := List.mem_filterMap.mp hop
  exact ⟨choice, hchoice, Choice.operation?_eq_some.mp hsome⟩

theorem mem_operations_of_apart (hchoice : choice ∈ choices)
    (happart : ¬ choice.place.same choice.target.source) :
    ⟨choice.target.source, choice.place, nthSuffix choice.number⟩ ∈ operations choices :=
  List.mem_filterMap.mpr
    ⟨choice, hchoice, Choice.operation?_eq_some.mpr ⟨by simpa using happart, rfl⟩⟩

namespace Drawn

variable (h : Drawn tree targets choices)

include h

theorem pending_of_mem (hchoice : choice ∈ choices) :
    choice.target ∈ targets ∧ isSettled none choice.target = false := by
  have hmem : choice.target ∈ choices.map (·.target) := List.mem_map_of_mem hchoice
  rw [h.pending] at hmem
  simpa using List.mem_filter.mp hmem

theorem exists_choice (htarget : target ∈ targets) (hpending : isSettled none target = false) :
    ∃ choice ∈ choices, choice.target = target := by
  have hmem : target ∈ choices.map (·.target) := by
    rw [h.pending]
    exact List.mem_filter.mpr ⟨htarget, by simp [hpending]⟩
  simpa using hmem

/-- One choice belongs to each file. -/
theorem choice_eq_of_source {a b : Choice} (ha : a ∈ choices) (hb : b ∈ choices)
    (hsource : a.target.source = b.target.source) : a = b := by
  have hnodup : (choices.map (·.target.source)).Nodup := by
    have hfiles : choices.map (·.target.source) = (choices.map (·.target)).map (·.source) := by
      rw [List.map_map]
      rfl
    rw [hfiles, h.pending]
    exact h.sources.sublist (List.filter_sublist.map _)
  exact List.inj_on_of_nodup_map hnodup ha hb hsource

/-- A file that is in the chosen place has no operation. -/
theorem source_ne_of_same (hchoice : choice ∈ choices)
    (hsame : choice.place.same choice.target.source) {op : Operation}
    (hop : op ∈ operations choices) : op.source ≠ choice.target.source := by
  intro hsource
  obtain ⟨other, hother, hapart, rfl⟩ := mem_operations hop
  -- the operation would belong to this choice
  obtain rfl := h.choice_eq_of_source hother hchoice hsource
  rw [hsame] at hapart
  cases hapart

/-- A file that is at its destination has no operation. -/
theorem source_ne_of_settled (htarget : target ∈ targets) (hsettled : isSettled none target)
    {op : Operation} (hop : op ∈ operations choices) : op.source ≠ target.source := by
  intro hsource
  obtain ⟨choice, hchoice, -, rfl⟩ := mem_operations hop
  obtain ⟨hmem, hpending⟩ := h.pending_of_mem hchoice
  obtain rfl := List.inj_on_of_nodup_map h.sources hmem htarget hsource
  rw [hpending] at hsettled
  cases hsettled

/-- A run takes the target of a choice to the chosen place. -/
theorem moved_choice (hchoice : choice ∈ choices) :
    choice.target.moved (operations choices) = choice.goal := by
  by_cases hsame : choice.place.same choice.target.source
  · rw [Choice.goal, if_pos hsame]
    exact Target.moved_eq_self fun op => h.source_ne_of_same hchoice hsame
  · have hmem := mem_operations_of_apart hchoice hsame
    rw [Target.moved, Choice.goal, if_neg hsame]
    cases hfind : (operations choices).find? (·.source == choice.target.source) with
    | none => exact absurd (beq_self_eq_true _) (List.find?_eq_none.mp hfind _ hmem)
    | some op =>
      obtain ⟨other, hother, -, rfl⟩ := mem_operations (List.mem_of_find?_eq_some hfind)
      have hsource : other.target.source = choice.target.source := by
        simpa using List.find?_some hfind
      obtain rfl := h.choice_eq_of_source hother hchoice hsource
      rfl

/-- A run leaves the targets in their places. -/
theorem moved_settled (htarget : target ∈ targets) (hsettled : isSettled none target) :
    target.moved (operations choices) = target :=
  Target.moved_eq_self fun _ => h.source_ne_of_settled htarget hsettled

/-- After a run a file is in the plain place where it was before, or at the destination of its
operation. -/
theorem moved_cases (hplain : ∀ target ∈ targets, target.destination.IsPlain)
    (htarget : target ∈ targets) :
    (target.moved (operations choices) = target ∧ target.source.IsPlain ∧
        ∀ op ∈ operations choices, op.source ≠ target.source) ∨
      ∃ op ∈ operations choices, (target.moved (operations choices)).source = op.destination := by
  cases hsettled : isSettled none target with
  | true =>
    have hplace : target.source.components = target.destination.components := by
      simpa [isSettled, same_iff] using hsettled
    exact .inl ⟨h.moved_settled htarget hsettled, isPlain_congr hplace (hplain target htarget),
      fun _ => h.source_ne_of_settled htarget hsettled⟩
  | false =>
    obtain ⟨choice, hchoice, rfl⟩ := h.exists_choice htarget hsettled
    rw [h.moved_choice hchoice, Choice.goal]
    by_cases hsame : choice.place.same choice.target.source
    · have hname := isPlain_nthName (hplain _ htarget) choice.number
      rw [if_pos hsame]
      exact .inl ⟨rfl, isPlain_congr (same_iff.mp hsame).symm hname,
        fun _ => h.source_ne_of_same hchoice hsame⟩
    · rw [if_neg hsame]
      exact .inr ⟨_, mem_operations_of_apart hchoice hsame, rfl⟩

/-! ### The second plan -/

/-- After a run the targets that are not in their places are those with numbers in their names. -/
theorem pending_moved :
    ((targets.map (·.moved (operations choices))).filter fun target => !isSettled none target) =
      ((choices.filter (·.number ≠ 0)).map (·.again)).map (·.target) := by
  have hpending : (targets.filter fun target =>
      !isSettled none (target.moved (operations choices))) =
        (choices.filter (·.number ≠ 0)).map (·.target) := by
    -- a target that was in its place is so still
    have htwice : (targets.filter fun target =>
        !isSettled none (target.moved (operations choices))) =
          (targets.filter fun target => !isSettled none target).filter fun target =>
            !isSettled none (target.moved (operations choices)) := by
      rw [List.filter_filter]
      refine List.filter_congr fun target htarget => ?_
      cases hsettled : isSettled none target with
      | true => simp [h.moved_settled htarget hsettled, hsettled]
      | false => simp
    rw [htwice, ← h.pending, List.filter_map]
    congr 1
    refine List.filter_congr fun choice hchoice => ?_
    have hgoal := choice.isSettled_goal
    rw [Function.comp_apply, h.moved_choice hchoice]
    by_cases hzero : choice.number = 0 <;> simp_all
  have hcomp : (fun target : Target => !isSettled none target) ∘
      (Target.moved (operations choices)) =
        fun target => !isSettled none (target.moved (operations choices)) := rfl
  rw [List.filter_map, hcomp, hpending, List.map_map, List.map_map]
  refine List.map_congr_left fun choice hchoice => ?_
  exact h.moved_choice (List.mem_filter.mp hchoice).1

/-- The places that are claimed at the start of the second plan are those that were claimed at the
start of the first, and the plain destinations that were chosen in it. -/
theorem isClaimed_moved :
    isClaimed (((targets.map (·.moved (operations choices))).filter (isSettled none)).map
        (·.destination)) path ↔
      isClaimed ((targets.filter (isSettled none)).map (·.destination)) path ∨
        ∃ choice ∈ choices, choice.number = 0 ∧ choice.place.components = path.components := by
  simp only [isClaimed, List.any_eq_true, List.mem_map, List.mem_filter, same_iff]
  constructor
  · rintro ⟨_, ⟨_, ⟨⟨target, htarget, rfl⟩, hsettled⟩, rfl⟩, hsame⟩
    by_cases hold : isSettled none target
    · rw [h.moved_settled htarget hold] at hsame
      exact .inl ⟨_, ⟨target, ⟨htarget, hold⟩, rfl⟩, hsame⟩
    · obtain ⟨choice, hchoice, rfl⟩ := h.exists_choice htarget (by simpa using hold)
      rw [h.moved_choice hchoice] at hsettled hsame
      have hzero := choice.isSettled_goal.mp hsettled
      rw [choice.destination_goal] at hsame
      exact .inr ⟨choice, hchoice, hzero, by rw [Choice.place, hzero]; exact hsame⟩
  · rintro (⟨_, ⟨target, ⟨htarget, hsettled⟩, rfl⟩, hsame⟩ | ⟨choice, hchoice, hzero, hsame⟩)
    · have hmoved := h.moved_settled htarget hsettled
      exact ⟨_, ⟨_, ⟨⟨target, htarget, rfl⟩, by rwa [hmoved]⟩, rfl⟩, by rwa [hmoved]⟩
    · have hmoved := h.moved_choice hchoice
      have hmem := (h.pending_of_mem hchoice).1
      refine ⟨_, ⟨_, ⟨⟨choice.target, hmem, rfl⟩, ?_⟩, rfl⟩, ?_⟩
      · rw [hmoved]
        exact choice.isSettled_goal.mpr hzero
      · rw [hmoved, choice.destination_goal]
        rw [Choice.place, hzero] at hsame
        exact hsame

/-- The name of a choice is passed over for the names in front of it. -/
theorem passedOver_iff :
    PassedOver tree targets (operations choices) path ↔ ∃ choice ∈ choices, ∃ j < choice.number,
      path = nthName choice.target.destination j ∧ tree.hasEntry path := by
  constructor
  · rintro ⟨target, htarget, j, k, hjk, hsame, hpath, hentry⟩
    rw [same_iff] at hsame
    cases hsettled : isSettled none target with
    | true =>
      -- a file in its place has the first name
      rw [h.moved_settled htarget hsettled] at hsame
      have hplace : target.source.components = (nthName target.destination 0).components := by
        simpa [isSettled, same_iff, nthName] using hsettled
      obtain rfl := nthName_injective (hplace.symm.trans hsame)
      exact absurd hjk j.not_lt_zero
    | false =>
      obtain ⟨choice, hchoice, rfl⟩ := h.exists_choice htarget hsettled
      rw [h.moved_choice hchoice, choice.components_goal] at hsame
      obtain rfl := nthName_injective hsame
      exact ⟨choice, hchoice, j, hjk, hpath, hentry⟩
  · rintro ⟨choice, hchoice, j, hj, hpath, hentry⟩
    refine ⟨choice.target, (h.pending_of_mem hchoice).1, j, choice.number, hj, ?_, hpath, hentry⟩
    rw [h.moved_choice hchoice, same_iff]
    exact choice.components_goal

theorem stands_place
    (hthere : ∀ target ∈ targets, Stands after (target.moved (operations choices)).source)
    (hchoice : choice ∈ choices) : Stands after choice.place := by
  have hgoal := hthere _ (h.pending_of_mem hchoice).1
  rw [h.moved_choice hchoice] at hgoal
  exact (stands_congr choice.components_goal).mp hgoal

/-- Something stands in each place that is claimed at the start of the second plan. -/
theorem stands_claimed
    (hthere : ∀ target ∈ targets, Stands after (target.moved (operations choices)).source)
    (hclaimed : isClaimed (((targets.map (·.moved (operations choices))).filter
      (isSettled none)).map (·.destination)) path) : Stands after path := by
  rcases h.isClaimed_moved.mp hclaimed with hold | ⟨choice, hchoice, -, hsame⟩
  · simp only [isClaimed, List.any_eq_true, List.mem_map, List.mem_filter, same_iff] at hold
    obtain ⟨_, ⟨target, ⟨htarget, hsettled⟩, rfl⟩, hsame⟩ := hold
    have hsource := hthere target htarget
    rw [h.moved_settled htarget hsettled] at hsource
    have hplace : target.source.components = target.destination.components := by
      simpa [isSettled, same_iff] using hsettled
    exact (stands_congr (hplace.trans hsame)).mp hsource
  · exact (stands_congr hsame).mp (h.stands_place hthere hchoice)

omit h in
/-- The targets of the second plan are those of choices in the chosen places. -/
theorem exists_goal
    (htarget : target ∈ ((choices.filter (·.number ≠ 0)).map (·.again)).map (·.target)) :
    ∃ choice ∈ choices, target = choice.goal := by
  obtain ⟨_, hagain, rfl⟩ := List.mem_map.mp htarget
  obtain ⟨choice, hchoice, rfl⟩ := List.mem_map.mp hagain
  exact ⟨choice, (List.mem_filter.mp hchoice).1, rfl⟩

section

variable (hplain : ∀ target ∈ targets, target.destination.IsPlain)

include hplain

theorem isPlain_goal (hchoice : choice ∈ choices) : choice.goal.destination.IsPlain := by
  rw [choice.destination_goal]
  exact hplain _ (h.pending_of_mem hchoice).1

/-- If the second plan is empty, no name that was passed over is left empty. -/
theorem hasEntry_of_plan_moved (hkeeps : KeepsDirectories tree after)
    (hthere : ∀ target ∈ targets, Stands after (target.moved (operations choices)).source)
    (hempty : planFrom after (((targets.map (·.moved (operations choices))).filter
        (isSettled none)).map (·.destination))
      (((choices.filter (·.number ≠ 0)).map (·.again)).map (·.target)) = [])
    (hpassed : PassedOver tree targets (operations choices) path) : after.hasEntry path := by
  obtain ⟨choice, hchoice, j, hj, rfl, hentry⟩ := h.passedOver_iff.mp hpassed
  have hdestination := h.isPlain_goal hplain hchoice
  rw [choice.destination_goal] at hdestination
  refine hasEntry_of_stands hkeeps (isPlain_nthName hdestination j) hentry ?_
  -- the second plan has choices, too, and they leave all files where they are
  obtain ⟨seconds, htargets, hnumbered, hplan⟩ := exists_numbered after _ _
  have hsecond : ∀ second ∈ seconds, second.place.components = second.target.source.components := by
    intro second hsecond
    rw [hempty] at hplan
    have hnone := List.filterMap_eq_nil_iff.mp hplan.symm second hsecond
    by_contra hapart
    rw [Choice.operation?, if_neg (by simpa [same_iff] using hapart)] at hnone
    cases hnone
  have hgoals : ∀ second ∈ seconds, ∃ choice ∈ choices, second.target = choice.goal :=
    fun second hmem => exists_goal (htargets ▸ List.mem_map_of_mem hmem)
  obtain ⟨second, hmem, hgoal⟩ : ∃ second ∈ seconds, second.target = choice.goal := by
    have hmem : choice.goal ∈ seconds.map (·.target) := by
      rw [htargets]
      refine List.mem_map.mpr ⟨choice.again, List.mem_map_of_mem ?_, rfl⟩
      exact List.mem_filter.mpr ⟨hchoice, by simpa using Nat.ne_zero_of_lt hj⟩
    simpa using hmem
  have hnumber : second.number = choice.number := by
    have hplace := hsecond second hmem
    rw [hgoal, choice.components_goal, Choice.place, hgoal, choice.destination_goal] at hplace
    exact nthName_injective hplace
  have hstands := hnumbered.stands (fun other hother => ?_) (fun path => h.stands_claimed hthere)
    (fun other hother => ?_) hmem (hnumber ▸ hj)
  · rwa [hgoal, choice.destination_goal] at hstands
  · obtain ⟨choice, hchoice, hgoal⟩ := hgoals other hother
    rw [hgoal]
    exact h.isPlain_goal hplain hchoice
  · obtain ⟨choice, hchoice, hgoal⟩ := hgoals other hother
    have hplace := hsecond other hother
    rw [hgoal, choice.components_goal] at hplace
    exact (stands_congr hplace).mpr (h.stands_place hthere hchoice)

omit hplain in
/-- If no name that was passed over is left empty, the second plan is empty. -/
theorem planFrom_moved
    (hkept : ∀ path, PassedOver tree targets (operations choices) path → after.hasEntry path) :
    planFrom after (((targets.map (·.moved (operations choices))).filter
        (isSettled none)).map (·.destination))
      (((choices.filter (·.number ≠ 0)).map (·.again)).map (·.target)) = [] := by
  have hagain := h.numbered.again (fun path hpath => h.isClaimed_moved.mpr (.inl hpath))
    (fun choice hchoice hzero => h.isClaimed_moved.mpr (.inr ⟨choice, hchoice, hzero, rfl⟩))
    (fun choice hchoice hnumber => ?_)
    (fun choice hchoice j hj hentry =>
      hkept _ (h.passedOver_iff.mpr ⟨choice, hchoice, j, hj, rfl, hentry⟩))
  · rw [hagain.planFrom_eq]
    simp [Choice.operation?_again]
  · -- the place was chosen for no other target
    rw [Bool.eq_false_iff]
    intro hclaimed
    rcases h.isClaimed_moved.mp hclaimed with hold | ⟨other, hother, hzero, hsame⟩
    · rw [h.numbered.isClaimed_eq_false hchoice] at hold
      cases hold
    · obtain rfl := h.numbered.eq_of_place hother hchoice hsame
      exact hnumber hzero

/-- When directories are kept and each file is where the plan takes it, the second plan is empty if
and only if no name that was passed over is left empty. -/
theorem plan_moved (root : Path) (hkeeps : KeepsDirectories tree after)
    (hthere : ∀ target ∈ targets, Stands after (target.moved (operations choices)).source) :
    plan after root none (targets.map (·.moved (operations choices))) = .ok [] ↔
      ∀ path, PassedOver tree targets (operations choices) path → after.hasEntry path := by
  rw [plan_none, h.pending_moved, Except.ok.injEq]
  constructor
  · intro hempty path
    exact h.hasEntry_of_plan_moved hplain hkeeps hthere hempty
  · exact h.planFrom_moved

end

end Drawn

/-! ### After the run -/

/-- A run without errors leaves something at each destination. -/
theorem stands_destination {start : FileTree} {ops : List Operation}
    {results : List (Except RenameError Unit)}
    (hsafe : List.Forall₂ (·.Safe start after ·) ops results)
    (herrors : failures results = []) {op : Operation} (hop : op ∈ ops)
    (hplain : op.destination.IsPlain) : Stands after op.destination := by
  induction hsafe with
  | nil => cases hop
  | @cons first result ops results hfirst hrest ih =>
    cases result with
    | error e => cases herrors
    | ok value =>
      rcases List.mem_cons.mp hop with rfl | hop
      · obtain ⟨content, -, hread⟩ := hfirst
        obtain ⟨place, modified, hlocate, hget⟩ := FileTree.readBytes_eq_ok.mp hread
        rw [Stands, ← FileTree.locate_eq_spelled hplain hlocate, hget]
        rfl
      · exact ih herrors hop

/-- What no operation takes away is still there, if directories and such files are kept. -/
theorem hasEntry_of_untouched {ops : List Operation} (hkeeps : KeepsDirectories tree after)
    (hkept : ∀ place file, (∀ op ∈ ops, tree.locate op.source ≠ .ok place) →
      tree.fileAt? place = some file → after.fileAt? place = some file)
    (hentry : tree.hasEntry path) (hnot : ∀ op ∈ ops, tree.locate op.source ≠ tree.locate path) :
    after.hasEntry path := by
  obtain ⟨place, hlocate, hsome⟩ := FileTree.hasEntry_iff.mp hentry
  refine FileTree.hasEntry_iff.mpr ⟨place, hkeeps.locate hlocate, ?_⟩
  obtain ⟨entry, hget⟩ := Option.isSome_iff_exists.mp hsome
  cases entry with
  | directory =>
    rw [hkeeps.directory hget]
    rfl
  | file content modified =>
    have hfile := hkept place _ (fun op hop => hlocate ▸ hnot op hop)
      (FileTree.fileAt?_eq_some.mpr hget)
    rw [FileTree.fileAt?_eq_some.mp hfile]
    rfl

/-- After a run that left something at each destination and everything that no operation takes away,
the file of each target is where the plan takes it. -/
theorem Drawn.stands_moved (h : Drawn tree targets choices)
    (hplain : ∀ target ∈ targets, target.destination.IsPlain)
    (hfiles : ∀ target ∈ targets, tree.isFile target.source)
    (hdistinct : targets.Pairwise fun a b => tree.locate a.source ≠ tree.locate b.source)
    (hdone : ∀ op ∈ operations choices, Stands after op.destination)
    (hstays : ∀ path, tree.hasEntry path →
      (∀ op ∈ operations choices, tree.locate op.source ≠ tree.locate path) → after.hasEntry path)
    (htarget : target ∈ targets) : Stands after (target.moved (operations choices)).source := by
  rcases h.moved_cases hplain htarget with ⟨hmoved, hplace, hnone⟩ | ⟨op, hop, hmoved⟩
  · -- a file without an operation is in a place from which nothing takes it
    obtain ⟨place, content, modified, hlocate, hget⟩ :=
      FileTree.isFile_iff.mp (hfiles target htarget)
    have hentry := FileTree.hasEntry_iff.mpr ⟨place, hlocate, by rw [hget]; rfl⟩
    rw [hmoved]
    refine stands_of_hasEntry hplace (hstays _ hentry fun op hop hsame => ?_)
    obtain ⟨choice, hchoice, -, rfl⟩ := mem_operations hop
    have hmem := (h.pending_of_mem hchoice).1
    have hnodup : (targets.map fun target => tree.locate target.source).Nodup :=
      List.pairwise_map.mpr hdistinct
    obtain rfl := List.inj_on_of_nodup_map hnodup hmem htarget hsame
    exact hnone _ hop rfl
  · rw [hmoved]
    exact hdone op hop

/-- What is planned again after a run without errors. The second plan, for the files in their new
places and the same destinations, is empty if and only if no name that was passed over, because
something was there, is left empty by the run. What no operation takes away is still there. -/
theorem plan_moveAll (disk : Disk) (root : Path) (targets : List Target) (absolute : Bool)
    (htree : disk.tree.WellFormed) (hfiles : ∀ target ∈ targets, disk.tree.isFile target.source)
    (hdistinct : targets.Pairwise fun a b =>
      disk.tree.locate a.source ≠ disk.tree.locate b.source)
    (hplain : ∀ target ∈ targets, target.destination.IsPlain)
    (hspelled : ∀ target ∈ targets, target.destination.isAbsolute = absolute) :
    ∃ ops, plan disk.tree root none targets = .ok ops ∧
      ((moveAll ops disk).1 = [] →
        (plan (moveAll ops disk).2.tree root none (targets.map (·.moved ops)) = .ok [] ↔
          ∀ path, PassedOver disk.tree targets ops path →
            (moveAll ops disk).2.tree.hasEntry path) ∧
        ∀ path, disk.tree.hasEntry path →
          (∀ op ∈ ops, disk.tree.locate op.source ≠ disk.tree.locate path) →
          (moveAll ops disk).2.tree.hasEntry path) := by
  have hsources : (targets.map (·.source)).Nodup := by
    refine List.pairwise_map.mpr (hdistinct.imp fun hne hsame => hne ?_)
    rw [hsame]
  obtain ⟨choices, hdrawn, hplan⟩ := exists_drawn disk.tree root hsources
  have hplanned := planned_of_plan hplan hfiles hdistinct hplain
    (plan_apart hplan hplain hspelled)
  obtain ⟨hkeeps, hkept, results, hresults, hsafe⟩ :=
    moveAll_safe htree hplanned (Underway.refl htree)
  refine ⟨operations choices, hplan, fun herrors => ?_⟩
  rw [hresults] at herrors
  generalize (moveAll (operations choices) disk).2.tree = after at hkeeps hkept hsafe ⊢
  have hstays : ∀ path, disk.tree.hasEntry path →
      (∀ op ∈ operations choices, disk.tree.locate op.source ≠ disk.tree.locate path) →
      after.hasEntry path := fun path => hasEntry_of_untouched hkeeps hkept
  have hdone : ∀ op ∈ operations choices, Stands after op.destination := fun op hop =>
    stands_destination hsafe herrors hop (hplanned.aimed op hop).plain
  have hthere : ∀ target ∈ targets, Stands after (target.moved (operations choices)).source :=
    fun target => hdrawn.stands_moved hplain hfiles hdistinct hdone hstays
  exact ⟨hdrawn.plan_moved hplain root hkeeps hthere, hstays⟩

/-- Two files that are to have the name of a third, beside a file in its place. -/
theorem plan_moveAll_duplicates :
    let place (name : Char) : Location := [['r'], [name]]
    let disk : Disk := {
      tree := { entries := [([['r']], .directory), (place 'a', .file ⟨#[1]⟩ 0),
        (place 'b', .file ⟨#[2]⟩ 0), (place 'c', .file ⟨#[3]⟩ 0), (place 'd', .file ⟨#[4]⟩ 0)] } }
    let path (name : String) : Path := ⟨['/', 'r', '/'] ++ name.toList⟩
    let targets : List Target :=
      [⟨path "a", path "d"⟩, ⟨path "c", path "c"⟩, ⟨path "b", path "d"⟩]
    ∃ ops, plan disk.tree ⟨['/', 'r']⟩ none targets = .ok ops ∧
      ops.map (·.suffix) = [some 2, some 3] ∧ (moveAll ops disk).1 = [] ∧
      (plan (moveAll ops disk).2.tree ⟨['/', 'r']⟩ none (targets.map (·.moved ops)) = .ok [] ↔
        ∀ path, PassedOver disk.tree targets ops path →
          (moveAll ops disk).2.tree.hasEntry path) ∧
      ∀ path, disk.tree.hasEntry path →
        (∀ op ∈ ops, disk.tree.locate op.source ≠ disk.tree.locate path) →
        (moveAll ops disk).2.tree.hasEntry path := by
  intro place disk path targets
  have htree : disk.tree.WellFormed := by
    refine FileTree.wellFormed_of_entries ?_ rfl
    simp [disk, place, FileTree.get?, List.lookup_cons]
  obtain ⟨ops, hplan, hrun⟩ := plan_moveAll disk ⟨['/', 'r']⟩ targets true htree (by decide)
    (by decide) (by decide) (by decide)
  have hnumbers : plan disk.tree ⟨['/', 'r']⟩ none targets =
      .ok [⟨path "a", path "d (2)", some 2⟩, ⟨path "b", path "d (3)", some 3⟩] := by
    decide +kernel
  obtain rfl := Except.ok.inj (hplan.symm.trans hnumbers)
  have herrors : (moveAll [⟨path "a", path "d (2)", some 2⟩, ⟨path "b", path "d (3)", some 3⟩]
      disk).1 = [] := by decide +kernel
  exact ⟨_, hplan, rfl, herrors, hrun herrors⟩

/-- A file that is to have the name of another, which gets a new name itself: the first run gives it
a number, and the second plan takes the number off. -/
theorem plan_moveAll_chain :
    let place (name : Char) : Location := [['r'], [name]]
    let disk : Disk := {
      tree := { entries := [([['r']], .directory), (place 'a', .file ⟨#[1]⟩ 0),
        (place 'b', .file ⟨#[2]⟩ 0)] } }
    let path (name : String) : Path := ⟨['/', 'r', '/'] ++ name.toList⟩
    let targets : List Target := [⟨path "a", path "b"⟩, ⟨path "b", path "c"⟩]
    let ops : List Operation := [⟨path "a", path "b (2)", some 2⟩, ⟨path "b", path "c", none⟩]
    disk.tree.WellFormed ∧
      (∀ target ∈ targets, disk.tree.isFile target.source ∧ target.destination.IsPlain) ∧
      (targets.map fun target => disk.tree.locate target.source).Nodup ∧
      plan disk.tree ⟨['/', 'r']⟩ none targets = .ok ops ∧ (moveAll ops disk).1 = [] ∧
      plan (moveAll ops disk).2.tree ⟨['/', 'r']⟩ none (targets.map (·.moved ops)) =
        .ok [⟨path "b (2)", path "b", none⟩] := by
  intro place disk path targets ops
  have htree : disk.tree.WellFormed := by
    refine FileTree.wellFormed_of_entries ?_ rfl
    simp [disk, place, FileTree.get?, List.lookup_cons]
  exact ⟨htree, by decide, by decide, by decide +kernel, by decide +kernel, by decide +kernel⟩

end MediaShelf.Rename
