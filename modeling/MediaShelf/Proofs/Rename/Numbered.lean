import MediaShelf.Proofs.Rename.Plan

/-!
# The numbers of a plan

The names that are tried for a destination stand in a row: the destination itself, then its variants
with numbers from two on. A plan takes the first free name of the row for each target, where the
names taken for the targets before it are not free. This says all about a plan, so what is proved of
plans can be proved of these choices.

## Main definitions

* `Rename.nthName` — the row of names
* `Rename.Choice` — a target with the place of its name in the row
* `Rename.Numbered` — choices of the first free names, one after the other

## Main results

* `Rename.nthName_injective` — the names of a row differ
* `Rename.exists_numbered`, `Rename.Numbered.planFrom_eq` — plans are choices of first free names
* `Rename.Numbered.pairwise` — no name is taken twice
* `Rename.Numbered.vacant` — operations go where nothing is
-/

namespace MediaShelf.Rename

variable {tree : FileTree} {claimed : List Path} {path source : Path} {j k : Nat}

theorem same_iff {other : Path} : path.same other ↔ path.components = other.components := by
  simp [Path.same]

theorem isClaimed_cons {place : Path} :
    isClaimed (place :: claimed) path ↔
      place.components = path.components ∨ isClaimed claimed path := by
  simp [isClaimed, Path.same]

/-- What keeps a name from being free. -/
theorem isFree_eq_false_iff :
    isFree tree claimed source path = false ↔
      isClaimed claimed path ∨ tree.hasEntry path ∧ path.components ≠ source.components := by
  rw [isFree, ← Bool.not_eq_true, Bool.and_eq_true, not_and_or, Bool.or_eq_true, not_or, same_iff]
  simp

/-! ### The row of names -/

/-- The names that are tried for a path, in order. -/
def nthName (path : Path) : Nat → Path
  | 0 => path
  | k + 1 => withSuffix path (k + 2)

/-- The number that stands in a name of the row. -/
def nthSuffix : Nat → Option Nat
  | 0 => none
  | k + 1 => some (k + 2)

theorem isPlain_nthName (h : path.IsPlain) (k : Nat) : (nthName path k).IsPlain := by
  cases k with
  | zero => exact h
  | succ k => exact isPlain_withSuffix h (k + 2)

/-- No variant of a path with a number is the path itself. -/
theorem components_withSuffix_ne (path : Path) (k : Nat) :
    (withSuffix path k).components ≠ path.components := by
  rw [components_withSuffix, lastFolder]
  cases hname : path.name? with
  | none => simp
  | some name =>
    obtain ⟨before, hbefore⟩ := List.getLast?_eq_some_iff.mp (Path.getLast?_of_name? hname)
    have hstem : lastStem path = Path.stem name := by simp [lastStem, Path.stem?, hname]
    have hextension : lastExtension path = ((Path.extension? name).map ('.' :: ·)).getD [] := by
      simp [lastExtension, Path.suffix?, hname]
    rw [hbefore, Option.isSome_some, if_pos rfl, List.dropLast_concat, Ne,
      List.append_cancel_left_eq, List.singleton_inj, Path.Component.name.injEq]
    intro hsame
    -- the number makes the name longer
    have hlength := congrArg List.length hsame
    rw [← Path.stem_append_extension name, hstem, hextension] at hlength
    simp only [List.length_append, List.length_cons] at hlength
    omega

/-- The names of a row differ. -/
theorem nthName_injective (h : (nthName path j).components = (nthName path k).components) :
    j = k := by
  cases j with
  | zero =>
    cases k with
    | zero => rfl
    | succ k => exact absurd h.symm (components_withSuffix_ne path (k + 2))
  | succ j =>
    cases k with
    | zero => exact absurd h (components_withSuffix_ne path (j + 2))
    | succ k => exact congrArg Nat.pred (withSuffix_injective h)

/-- The chosen name is the first free one of the row. -/
theorem exists_freeName_eq (tree : FileTree) (claimed : List Path) (source path : Path) :
    ∃ k, freeName (isFree tree claimed source) (suffixLimit tree claimed) path =
        (nthName path k, nthSuffix k) ∧
      isFree tree claimed source (nthName path k) ∧
      ∀ j < k, isFree tree claimed source (nthName path j) = false := by
  unfold freeName
  by_cases hfree : isFree tree claimed source path
  · exact ⟨0, by rw [if_pos hfree]; rfl, hfree, fun j hj => absurd hj j.not_lt_zero⟩
  · rw [if_neg hfree]
    obtain ⟨n, hn, hsome⟩ := exists_free tree claimed source path
    cases hfind : (List.range' 2 (suffixLimit tree claimed - 2)).find? fun k =>
        isFree tree claimed source (withSuffix path k) with
    | none => exact absurd hsome (List.find?_eq_none.mp hfind n hn)
    | some number =>
      obtain ⟨hnumber, hmem, hless⟩ := List.find?_range'_eq_some.mp hfind
      obtain ⟨htwo, -⟩ := List.mem_range'_1.mp hmem
      obtain ⟨k, rfl⟩ : ∃ k, number = k + 2 := ⟨number - 2, by omega⟩
      refine ⟨k + 1, rfl, hnumber, fun j hj => ?_⟩
      cases j with
      | zero => exact Bool.eq_false_iff.mpr hfree
      | succ j => simpa [nthName] using hless (j + 2) (by omega) (by omega)

/-- There is one first free name. -/
theorem first_unique {free : Nat → Bool} (hj : free j) (hbelow : ∀ i < j, free i = false)
    (hk : free k) (hless : ∀ i < k, free i = false) : j = k := by
  by_contra hne
  rcases Nat.lt_or_gt_of_ne hne with hlt | hlt
  · rw [hless j hlt] at hj
    cases hj
  · rw [hbelow k hlt] at hk
    cases hk

/-! ### Choices -/

/-- A target with the place of its name in the row of names. -/
structure Choice where
  target : Target
  number : Nat

namespace Choice

/-- Where the target is to be. -/
def place (choice : Choice) : Path := nthName choice.target.destination choice.number

/-- The operation that takes the target there, unless it is there already. -/
def operation? (choice : Choice) : Option Operation :=
  if choice.place.same choice.target.source then none
  else some ⟨choice.target.source, choice.place, nthSuffix choice.number⟩

theorem operation?_eq_some {choice : Choice} {op : Operation} :
    choice.operation? = some op ↔ choice.place.same choice.target.source = false ∧
      op = ⟨choice.target.source, choice.place, nthSuffix choice.number⟩ := by
  unfold operation?
  by_cases hsame : choice.place.same choice.target.source <;> simp [hsame, eq_comm]

end Choice

/-- Each choice is the first free name, if the names `claimed` and those of the choices before it
are taken. -/
inductive Numbered (tree : FileTree) : List Path → List Choice → Prop where
  | nil (claimed : List Path) : Numbered tree claimed []
  | cons {claimed : List Path} {choice : Choice} {choices : List Choice}
      (hfree : isFree tree claimed choice.target.source choice.place)
      (hfirst : ∀ j < choice.number,
        isFree tree claimed choice.target.source (nthName choice.target.destination j) = false)
      (hrest : Numbered tree (choice.place :: claimed) choices) :
    Numbered tree claimed (choice :: choices)

/-- A plan is made of choices of the first free names. -/
theorem exists_numbered (tree : FileTree) (claimed : List Path) (targets : List Target) :
    ∃ choices, choices.map (·.target) = targets ∧ Numbered tree claimed choices ∧
      planFrom tree claimed targets = choices.filterMap (·.operation?) := by
  induction targets generalizing claimed with
  | nil => exact ⟨[], rfl, .nil claimed, rfl⟩
  | cons target targets ih =>
    obtain ⟨source, destination⟩ := target
    obtain ⟨k, hname, hfree, hfirst⟩ :=
      exists_freeName_eq tree claimed source destination
    obtain ⟨choices, rfl, hnumbered, hplan⟩ := ih (nthName destination k :: claimed)
    refine ⟨⟨⟨source, destination⟩, k⟩ :: choices, rfl, .cons hfree hfirst hnumbered, ?_⟩
    rw [planFrom]
    dsimp only at hname ⊢
    rw [hname, hplan, List.filterMap_cons]
    by_cases hthere : (nthName destination k).same source
    · simp [Choice.operation?, Choice.place, hthere]
    · simp [Choice.operation?, Choice.place, hthere]

namespace Numbered

variable {choices earlier later others : List Choice}

/-- There is one way to choose. -/
theorem unique (h : Numbered tree claimed choices) (hothers : Numbered tree claimed others)
    (htargets : choices.map (·.target) = others.map (·.target)) : choices = others := by
  induction h generalizing others with
  | nil claimed => exact (List.map_eq_nil_iff.mp htargets.symm).symm
  | @cons claimed choice choices hfree hfirst hrest ih =>
    cases hothers with
    | nil => cases htargets
    | @cons _ other others hfree' hfirst' hrest' =>
      obtain ⟨htarget, hbehind⟩ := List.cons.inj htargets
      obtain ⟨target, number⟩ := choice
      obtain ⟨other, otherNumber⟩ := other
      obtain rfl : target = other := htarget
      obtain rfl : number = otherNumber := first_unique hfree hfirst hfree' hfirst'
      rw [ih hrest' hbehind]

/-- Choices of the first free names make the plan for their targets. -/
theorem planFrom_eq (h : Numbered tree claimed choices) :
    planFrom tree claimed (choices.map (·.target)) = choices.filterMap (·.operation?) := by
  obtain ⟨others, htargets, hothers, hplan⟩ :=
    exists_numbered tree claimed (choices.map (·.target))
  rw [hplan, h.unique hothers htargets.symm]

/-- No name is taken that was claimed before. -/
theorem isClaimed_eq_false (h : Numbered tree claimed choices) {choice : Choice}
    (hmem : choice ∈ choices) : isClaimed claimed choice.place = false := by
  induction h with
  | nil => cases hmem
  | @cons claimed first choices hfree hfirst hrest ih =>
    rcases List.mem_cons.mp hmem with rfl | hmem
    · simp only [isFree, Bool.and_eq_true, Bool.not_eq_true'] at hfree
      exact hfree.1
    · exact (isClaimed_cons_eq_false.mp (ih hmem)).2

/-- No name is taken twice. -/
theorem pairwise (h : Numbered tree claimed choices) :
    choices.Pairwise fun a b => a.place.components ≠ b.place.components := by
  induction h with
  | nil => exact .nil
  | cons _ _ hrest ih =>
    refine List.pairwise_cons.mpr ⟨fun later hlater => ?_, ih⟩
    exact (isClaimed_cons_eq_false.mp (hrest.isClaimed_eq_false hlater)).1

theorem eq_of_place (h : Numbered tree claimed choices) {a b : Choice} (ha : a ∈ choices)
    (hb : b ∈ choices) (hplace : a.place.components = b.place.components) : a = b :=
  List.inj_on_of_nodup_map (List.pairwise_map.mpr h.pairwise) ha hb hplace

/-- What is chosen behind others, when their names are claimed too. -/
theorem append (h : Numbered tree claimed (earlier ++ later)) :
    Numbered tree ((earlier.map (·.place)).reverse ++ claimed) later := by
  induction earlier generalizing claimed with
  | nil => exact h
  | cons choice earlier ih =>
    cases h with
    | cons hfree hfirst hrest => simpa using ih hrest

/-- Nothing is on disk where an operation goes, and the name was not claimed before. -/
theorem vacant (h : Numbered tree claimed choices) {op : Operation}
    (hop : op ∈ choices.filterMap (·.operation?)) :
    tree.hasEntry op.destination = false ∧ isClaimed claimed op.destination = false := by
  obtain ⟨choice, hchoice, hsome⟩ := List.mem_filterMap.mp hop
  obtain ⟨hother, rfl⟩ := Choice.operation?_eq_some.mp hsome
  refine ⟨?_, h.isClaimed_eq_false hchoice⟩
  obtain ⟨earlier, later, rfl⟩ := List.append_of_mem hchoice
  cases h.append with
  | cons hfree _ _ => simpa [isFree, hother] using (Bool.and_eq_true_iff.mp hfree).2

/-- No two operations go to one name. -/
theorem pairwise_operations (h : Numbered tree claimed choices) :
    (choices.filterMap (·.operation?)).Pairwise fun a b =>
      a.destination.components ≠ b.destination.components := by
  refine List.pairwise_filterMap.mpr (h.pairwise.imp fun {a b} hne c hc d hd => ?_)
  obtain ⟨-, rfl⟩ := Choice.operation?_eq_some.mp hc
  obtain ⟨-, rfl⟩ := Choice.operation?_eq_some.mp hd
  exact hne

end Numbered

end MediaShelf.Rename
