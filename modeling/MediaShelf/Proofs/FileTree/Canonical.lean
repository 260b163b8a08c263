import MediaShelf.Proofs.FileTree.Locate

/-!
# Plain forms of paths

The plain form of a path is spelled by the names that lead down to its entry.

## Main results

* `components_pathOf` — the path of a place is its names behind the root
* `components_canonical` — an absolute path that never goes up has the components of its plain form
-/

namespace MediaShelf.FileTree

open MediaShelf.Path (IsName innerComponent?)

variable {tree : FileTree} {path : Path} {place : Location}

/-- The path of a place is its names behind the root. -/
theorem components_pathOf (hne : place ≠ []) (hnames : ∀ name ∈ place, IsName name) :
    (pathOf place).components = .root :: place.map .name := by
  have hpieces : (pathOf place).pieces = [] :: place := by
    have htext : (pathOf place).text = Text.joinWith ['/'] ([] :: place) := by
      rw [Text.joinWith_cons_eq_flatMap]
      rfl
    rw [Path.pieces, htext]
    refine Text.splitBy_joinWith (by simp) (List.forall_mem_cons.mpr ⟨List.not_mem_nil, ?_⟩)
    exact fun name hname => (hnames name hname).no_slash
  have habs : (pathOf place).isAbsolute := (Path.isAbsolute_iff hpieces).mpr ⟨rfl, hne⟩
  have hinner : place.filterMap innerComponent? = place.map .name := by
    have hup : ∀ name ∈ place, name ≠ ['.', '.'] := fun name hname => (hnames name hname).ne_up
    rw [Path.filterMap_inner hup, List.filter_eq_self.mpr]
    intro name hname
    simp [Path.counts, (hnames name hname).ne_nil, (hnames name hname).ne_here]
  rw [Path.components_of_pieces hpieces, if_pos habs, hinner]
  rfl

/-- An absolute path that never goes up has the components of its plain form. -/
theorem components_canonical (hplain : path.IsPlain) (habs : path.isAbsolute) :
    (tree.canonical path).components = path.components := by
  have hcomponents : path.components = .root :: path.names.map .name := by
    rw [hplain.components_eq, if_pos habs]
    rfl
  have hnames : ∀ name ∈ path.names, IsName name := by
    intro name hname
    have hmem : .name name ∈ path.components := by
      rw [hcomponents]
      exact List.mem_cons_of_mem _ (List.mem_map_of_mem hname)
    exact Path.isName_of_mem_components hmem
  cases hentry : tree.entryAt path with
  | error cause => simp [canonical, canonical?, hentry]
  | ok found =>
    obtain ⟨place, entry⟩ := found
    obtain rfl : place = path.names := by
      rw [locate_eq_spelled hplain (entryAt_eq_ok.mp hentry).1, spelled, startOf, if_pos habs]
      rfl
    rw [hcomponents]
    cases hplace : path.names with
    | nil => simp only [canonical, canonical?, hentry, hplace, Option.getD_some]; rfl
    | cons name names =>
      rw [hplace] at hnames
      simp only [canonical, canonical?, hentry, hplace, Option.getD_some]
      exact components_pathOf (List.cons_ne_nil name names) hnames

end MediaShelf.FileTree
