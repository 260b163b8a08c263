import MediaShelf.Proofs.Path.Components

/-!
# Paths seen from other paths

What is behind a base of a path, as a path of its own. Put behind another base it makes the path
that lies there as the first one lies below its own.

## Main results

* `Path.stripRoot?_eq_some` — the rest of a path has the components that the base leaves
* `Path.components_join_plain` — a rest that goes neither up nor stays put is added as it is
-/

namespace MediaShelf.Path

variable {path base other : Path} {ps : List Part} {n : Nat}

/-! ### Parts behind a base -/

theorem dropParts_suffix (n : Nat) (ps : List Part) : dropParts n ps <:+ ps := by
  induction n, ps using dropParts.induct with
  | case1 ps => simpa only [dropParts] using List.suffix_refl ps
  | case2 n => exact List.suffix_refl []
  | case3 n piece ps ih => exact ih.trans (List.suffix_cons _ ps)
  | case4 n piece c ps ih => exact ih.trans (List.suffix_cons _ ps)

/-- Dropping parts drops as many components. -/
theorem filterMap_dropParts (n : Nat) (ps : List Part) :
    (dropParts n ps).filterMap (·.2) = (ps.filterMap (·.2)).drop n := by
  induction n, ps using dropParts.induct with
  | case1 ps => rw [dropParts, List.drop_zero]
  | case2 n => rfl
  | case3 n piece ps ih => simpa [dropParts] using ih
  | case4 n piece c ps ih => simpa [dropParts] using ih

theorem filterMap_dropWhile_isNone (ps : List Part) :
    (ps.dropWhile (·.2.isNone)).filterMap (·.2) = ps.filterMap (·.2) := by
  induction ps with
  | nil => rfl
  | cons part ps ih =>
    obtain ⟨piece, c⟩ := part
    cases c with
    | none => simpa using ih
    | some c => simp

/-- Parts behind the first are pieces with what they stand for there. -/
theorem exists_inner_of_suffix (h : ps <:+ path.parts.tail) :
    ∃ pieces : List (List Char), ps = pieces.map (fun piece => (piece, innerComponent? piece)) ∧
      ∀ piece ∈ pieces, '/' ∉ piece := by
  obtain ⟨first, rest, hpieces⟩ := List.exists_cons_of_ne_nil path.pieces_ne_nil
  rw [parts, hpieces, List.tail_cons] at h
  obtain ⟨front, hfront⟩ := h
  obtain ⟨before, behind, rfl, -, rfl⟩ := List.map_eq_append_iff.mp hfront.symm
  refine ⟨behind, rfl, fun piece hpiece => no_slash_of_mem_pieces path ?_⟩
  rw [hpieces]
  exact List.mem_cons_of_mem _ (List.mem_append_right before hpiece)

/-- Inner parts, of which the first counts, make a relative path with just their components. -/
theorem components_joinWith {pieces : List (List Char)} (hslash : ∀ piece ∈ pieces, '/' ∉ piece)
    (hfirst : ∀ piece ∈ pieces.head?, (innerComponent? piece).isSome) :
    (⟨Text.joinWith ['/'] pieces⟩ : Path).components = pieces.filterMap innerComponent? ∧
      (⟨Text.joinWith ['/'] pieces⟩ : Path).isAbsolute = false := by
  cases pieces with
  | nil => exact ⟨rfl, rfl⟩
  | cons first rest =>
    have hpieces : Path.pieces ⟨Text.joinWith ['/'] (first :: rest)⟩ = first :: rest :=
      Text.splitBy_joinWith (List.cons_ne_nil first rest) hslash
    have hcounts : (innerComponent? first).isSome := hfirst first rfl
    have hskip : ¬(first = [] ∨ first = ['.']) := fun hskip => by
      rw [innerComponent?, if_pos hskip] at hcounts
      cases hcounts
    have habs : (⟨Text.joinWith ['/'] (first :: rest)⟩ : Path).isAbsolute = false := by
      rw [Bool.eq_false_iff, Ne, isAbsolute_iff hpieces]
      exact fun h => hskip (.inl h.1)
    refine ⟨?_, habs⟩
    rw [components_of_pieces hpieces, habs, firstComponent?, if_neg fun h => hskip (.inr h)]
    obtain ⟨c, hc⟩ := Option.isSome_iff_exists.mp hcounts
    simp [hc]

/-- The parts behind the first of a path, from one that counts on, make a relative path with just
their components. -/
theorem components_behind (hsuffix : ps <:+ path.parts.tail)
    (hfirst : ∀ part ∈ ps.head?, part.2.isSome) :
    (⟨Text.joinWith ['/'] ((trimParts ps).map (·.1))⟩ : Path).components = ps.filterMap (·.2) ∧
      (⟨Text.joinWith ['/'] ((trimParts ps).map (·.1))⟩ : Path).isAbsolute = false := by
  obtain ⟨⟨left, hleft⟩, htrimmed, -⟩ := trimParts_spec ps
  obtain ⟨pieces, hpieces, hslash⟩ := exists_inner_of_suffix hsuffix
  -- what trimming leaves are the first of the pieces
  obtain ⟨taken, others, rfl, htaken, -⟩ :=
    List.map_eq_append_iff.mp (hpieces.symm.trans hleft.symm)
  have hmap : (trimParts ps).map (·.1) = taken := by
    rw [← htaken, List.map_map]
    exact List.map_id taken
  have hfilter : taken.filterMap innerComponent? = ps.filterMap (·.2) := by
    rw [← htrimmed, ← htaken, List.filterMap_map]
    rfl
  rw [hmap, ← hfilter]
  refine components_joinWith (fun piece hpiece => hslash piece (List.mem_append_left _ hpiece)) ?_
  intro piece hpiece
  obtain ⟨rest, rfl⟩ := List.head?_eq_some_iff.mp hpiece
  exact hfirst (piece, innerComponent? piece) (by rw [hpieces]; rfl)

/-! ### The rest of a path -/

/-- A path that starts with the components of a base has a rest with the others. The rest is
relative unless the base is the empty path. -/
theorem stripRoot?_eq_some (h : path.startsWith base) :
    ∃ rest, path.stripRoot? base = some rest ∧
      path.components = base.components ++ rest.components ∧
      (base.components ≠ [] ∨ path.isAbsolute = false → rest.isAbsolute = false) := by
  obtain ⟨behind, hbehind⟩ := List.isPrefixOf_iff_prefix.mp h
  unfold stripRoot?
  rw [if_pos h]
  cases hlength : base.components.length with
  | zero =>
    rw [List.length_eq_zero_iff] at hlength
    obtain ⟨hinitial, hcomponents, hlast⟩ := trimParts_spec path.parts
    have hrest := (components_ofPieces path hinitial hlast).trans hcomponents
    refine ⟨_, rfl, by rw [hlength, hrest, filterMap_parts, List.nil_append], ?_⟩
    rintro (hne | habs)
    · exact absurd hlength hne
    · rw [← habs, Bool.eq_iff_iff, isAbsolute_iff_head?, isAbsolute_iff_head?, hrest,
        filterMap_parts]
  | succ n =>
    let ps := (dropParts (n + 1) path.parts).dropWhile (·.2.isNone)
    have hsuffix : ps <:+ path.parts.tail := by
      refine (List.dropWhile_suffix _).trans ?_
      cases path.parts with
      | nil => exact List.suffix_refl []
      | cons part ps =>
        obtain ⟨piece, c⟩ := part
        cases c with
        | none => exact dropParts_suffix (n + 1) ps
        | some c => exact dropParts_suffix n ps
    have hfirst : ∀ part ∈ ps.head?, part.2.isSome := by
      intro part hpart
      have hhead := List.head?_dropWhile_not (fun part : Part => part.2.isNone)
        (dropParts (n + 1) path.parts)
      simpa [ps, Option.mem_def.mp hpart] using hhead
    have hkept : ps.filterMap (·.2) = behind := by
      rw [filterMap_dropWhile_isNone, filterMap_dropParts, filterMap_parts, ← hbehind, ← hlength,
        List.drop_left]
    obtain ⟨hcomponents, habs⟩ := components_behind hsuffix hfirst
    exact ⟨_, rfl, by rw [hcomponents, hkept, hbehind], fun _ => habs⟩

/-- A relative path put behind another one adds its components to it, unless it starts with a full
stop, which only counts where nothing is in front of it. -/
theorem components_join_of_no_here (h : other.isAbsolute = false)
    (hhere : .here ∉ other.components) :
    (path.join other).components = path.components ++ other.components := by
  rw [components_join h]
  split
  · rfl
  · obtain ⟨first, rest, hpieces⟩ := List.exists_cons_of_ne_nil other.pieces_ne_nil
    have hfirst : first ≠ ['.'] := by
      rintro rfl
      refine hhere ?_
      rw [components_of_pieces hpieces, h]
      simp [firstComponent?]
    rw [components_of_pieces hpieces, hpieces, h, if_neg (by simp), firstComponent?, if_neg hfirst]
    cases hfirst : innerComponent? first <;> simp [hfirst]

/-- A plain path put behind another one adds its components to it. -/
theorem components_join_plain (h : other.isAbsolute = false) (hplain : other.IsPlain) :
    (path.join other).components = path.components ++ other.components :=
  components_join_of_no_here h fun hhere => (hplain .here hhere).1 rfl

end MediaShelf.Path
