import Mathlib.Data.List.Forall2
import MediaShelf.Proofs.Path.Relative
import MediaShelf.Proofs.Rename.Numbered

/-!
# Smallest free names

Of the names that are tried for a file the first free one is taken, whatever the tree and the list
of targets. Names are taken from the start by the files that are in their places, and then by one
file after the other. No name is given away twice, and none under which anything is on disk.

## Main definitions

* `Rename.Redirects` — a target with its destination carried over to the directory for copies
* `Rename.Taken` — what keeps a file from a name
* `Rename.Allotment` — the names that a plan gives to its targets

## Main results

* `Rename.Numbered.first` — each choice is the first name that is not taken
* `Rename.plan_allotment` — every plan gives names in this way
-/

namespace MediaShelf.Rename

variable {tree : FileTree} {claimed : List Path} {choices earlier later : List Choice}
  {choice : Choice} {root : Path} {output : Option Path} {targets : List Target}

/-! ### Destinations -/

/-- The second target is the first one with its destination carried over from the root to the
directory for copies, if there is one. -/
def Redirects (root : Path) (output : Option Path) (target aimed : Target) : Prop :=
  aimed.source = target.source ∧
    match output with
    | none => aimed.destination = target.destination
    | some output => ∃ rest, target.destination.stripRoot? root = some rest ∧
        target.destination.components = root.components ++ rest.components ∧
        aimed.destination = output.join rest

/-- Destinations below the root can all be carried over. -/
theorem exists_aimed
    (hbelow : output.isSome → ∀ target ∈ targets, target.destination.startsWith root) :
    ∃ aimed, targets.mapM (aim root output) = .ok aimed ∧
      List.Forall₂ (Redirects root output) targets aimed := by
  induction targets with
  | nil => exact ⟨[], rfl, .nil⟩
  | cons target targets ih =>
    obtain ⟨others, hothers, hredirects⟩ :=
      ih fun hsome later hlater => hbelow hsome later (List.mem_cons_of_mem _ hlater)
    obtain ⟨first, hfirst, hredirect⟩ :
        ∃ first, aim root output target = .ok first ∧ Redirects root output target first := by
      cases output with
      | none => exact ⟨target, rfl, rfl, rfl⟩
      | some output =>
        obtain ⟨rest, hrest, hcomponents, -⟩ :=
          Path.stripRoot?_eq_some (hbelow rfl target List.mem_cons_self)
        exact ⟨{ target with destination := output.join rest }, by simp [aim, hrest], rfl, rest,
          hrest, hcomponents, rfl⟩
    exact ⟨first :: others, by rw [List.mapM_cons, hfirst, hothers]; rfl,
      .cons hredirect hredirects⟩

theorem exists_redirected {aimed : List Target} {target : Target}
    (h : List.Forall₂ (Redirects root output) targets aimed) (htarget : target ∈ aimed) :
    ∃ given ∈ targets, Redirects root output given target := by
  induction h with
  | nil => cases htarget
  | cons hfirst _ ih =>
    rcases List.mem_cons.mp htarget with rfl | hlater
    · exact ⟨_, List.mem_cons_self, hfirst⟩
    · obtain ⟨given, hgiven, hredirects⟩ := ih hlater
      exact ⟨given, List.mem_cons_of_mem _ hgiven, hredirects⟩

/-! ### Names that are taken -/

/-- What keeps a file from a name: a file in its place has it, an earlier choice took it, or
something other than the file itself is there. -/
def Taken (tree : FileTree) (settled : List Target) (earlier : List Choice) (source path : Path) :
    Prop :=
  (∃ target ∈ settled, target.destination.components = path.components) ∨
    (∃ choice ∈ earlier, choice.place.components = path.components) ∨
    tree.hasEntry path ∧ path.components ≠ source.components

theorem isFree_eq_false_iff_taken {settled : List Target} {source path : Path} :
    isFree tree ((earlier.map (·.place)).reverse ++ settled.map (·.destination)) source path =
        false ↔
      Taken tree settled earlier source path := by
  rw [isFree_eq_false_iff, isClaimed_iff, Taken, ← or_assoc]
  refine or_congr_left ?_
  simp only [List.map_append, List.map_reverse, List.map_map, List.mem_append, List.mem_reverse,
    List.mem_map, Function.comp_apply]
  exact or_comm

namespace Numbered

/-- Each choice is the first name that is not taken. -/
theorem first {settled : List Target} (h : Numbered tree (settled.map (·.destination)) choices)
    (hsplit : choices = earlier ++ choice :: later) :
    ¬Taken tree settled earlier choice.target.source choice.place ∧
      ∀ j < choice.number,
        Taken tree settled earlier choice.target.source (nthName choice.target.destination j) := by
  subst hsplit
  cases h.append with
  | cons hfree hfirst _ =>
    refine ⟨fun htaken => ?_, fun j hj => isFree_eq_false_iff_taken.mp (hfirst j hj)⟩
    rw [isFree_eq_false_iff_taken.mpr htaken] at hfree
    cases hfree

end Numbered

/-! ### Plans -/

/-- The names that a plan gives to its targets: `aimed` are the targets with their destinations
carried over, `choices` those of them that are not in their places, with the first names that are
not taken, and `ops` take the files there. -/
structure Allotment (tree : FileTree) (root : Path) (output : Option Path) (targets : List Target)
    (aimed : List Target) (choices : List Choice) (ops : List Operation) : Prop where
  redirects : List.Forall₂ (Redirects root output) targets aimed
  pending : choices.map (·.target) = aimed.filter fun target => !isSettled output target
  first : ∀ earlier choice later, choices = earlier ++ choice :: later →
    ¬Taken tree (aimed.filter (isSettled output)) earlier choice.target.source choice.place ∧
      ∀ j < choice.number, Taken tree (aimed.filter (isSettled output)) earlier
        choice.target.source (nthName choice.target.destination j)
  operations : ops = choices.filterMap (·.operation?)
  vacant : ∀ op ∈ ops, tree.hasEntry op.destination = false
  distinct : ops.Pairwise fun a b => a.destination.components ≠ b.destination.components
  apart : ∀ op ∈ ops, ∀ target ∈ aimed, isSettled output target →
    op.destination.components ≠ target.destination.components

/-- There is a plan for all targets below the root, and it gives each of them the smallest name that
is free when it is its turn. -/
theorem plan_allotment (tree : FileTree) (root : Path) (output : Option Path)
    (targets : List Target)
    (hbelow : output.isSome → ∀ target ∈ targets, target.destination.startsWith root) :
    ∃ aimed choices ops, plan tree root output targets = .ok ops ∧
      Allotment tree root output targets aimed choices ops := by
  obtain ⟨aimed, haimed, hredirects⟩ := exists_aimed hbelow
  obtain ⟨choices, hpending, hnumbered, hplan⟩ := exists_numbered tree
    ((aimed.filter (isSettled output)).map (·.destination))
    (aimed.filter fun target => !isSettled output target)
  refine ⟨aimed, choices, _, (plan_eq_ok haimed).trans (by rw [hplan]), hredirects, hpending,
    fun _ _ _ hsplit => hnumbered.first hsplit, rfl, fun op hop => (hnumbered.vacant hop).1,
    hnumbered.pairwise_operations, fun op hop target htarget hsettled hsame => ?_⟩
  -- the names of files in their places are claimed before any choice
  have hclaimed : isClaimed ((aimed.filter (isSettled output)).map (·.destination))
      op.destination := by
    rw [isClaimed_iff, hsame]
    exact List.mem_map_of_mem
      (List.mem_map_of_mem (List.mem_filter.mpr ⟨htarget, hsettled⟩))
  rw [(hnumbered.vacant hop).2] at hclaimed
  cases hclaimed

/-- A copy that is to have a name which stands on disk already, and with the number two as well. -/
theorem plan_allotment_third :
    let tree : FileTree := { entries := [([['r']], .directory), ([['r'], ['a']], .file ⟨#[1]⟩ 0),
      ([['o']], .directory), ([['o'], ['d']], .file ⟨#[2]⟩ 0),
      ([['o'], ['d', ' ', '(', '2', ')']], .file ⟨#[3]⟩ 0)] }
    let targets : List Target := [⟨⟨['/', 'r', '/', 'a']⟩, ⟨['/', 'r', '/', 'd']⟩⟩]
    (∀ target ∈ targets, target.destination.startsWith ⟨['/', 'r']⟩) ∧
      plan tree ⟨['/', 'r']⟩ (some ⟨['/', 'o']⟩) targets =
        .ok [⟨⟨['/', 'r', '/', 'a']⟩, ⟨"/o/d (3)".toList⟩, some 3⟩] ∧
      ∃ aimed choices ops,
        plan tree ⟨['/', 'r']⟩ (some ⟨['/', 'o']⟩) targets = .ok ops ∧
          Allotment tree ⟨['/', 'r']⟩ (some ⟨['/', 'o']⟩) targets aimed choices ops :=
  ⟨by decide, by decide, plan_allotment _ _ _ _ fun _ => by decide⟩

end MediaShelf.Rename
