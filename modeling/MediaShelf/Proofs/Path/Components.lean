import Mathlib.Data.List.Induction
import MediaShelf.Path.Basic
import MediaShelf.Proofs.Text.Split

/-!
# Components of paths

What the operations on paths do to components. A path without full stops as components is its
names, behind the root if it is absolute.

## Main definitions

* `Path.IsName` — what can stand as a name in a path
* `Path.IsPlain` — paths in which no component is a full stop or two

## Main results

* `Path.components_join` — one path behind another
* `Path.components_push`, `Path.components_parent?` — one component more, one less
* `Path.IsPlain.components_eq` — a plain path is its names
-/

namespace MediaShelf.Path

/-- What can stand as a name in a path. -/
structure IsName (name : List Char) : Prop where
  ne_nil : name ≠ []
  ne_here : name ≠ ['.']
  ne_up : name ≠ ['.', '.']
  no_slash : '/' ∉ name

/-- No component is a full stop or two. -/
def IsPlain (path : Path) : Prop := ∀ c ∈ path.components, c ≠ .here ∧ c ≠ .up

instance (path : Path) : Decidable path.IsPlain :=
  inferInstanceAs (Decidable (∀ c ∈ path.components, c ≠ .here ∧ c ≠ .up))

variable {path : Path} {first piece name : List Char} {rest : List (List Char)}

/-! ### Pieces -/

theorem pieces_ne_nil (path : Path) : path.pieces ≠ [] := Text.splitBy_ne_nil _

theorem no_slash_of_mem_pieces (path : Path) (h : piece ∈ path.pieces) : '/' ∉ piece := by
  intro hslash
  simpa using Text.not_of_mem_splitBy h hslash

/-- Text without slashes is a single piece. -/
theorem pieces_name (h : '/' ∉ name) : pieces ⟨name⟩ = [name] := by
  refine Text.splitBy_of_free fun c hc => ?_
  rw [beq_eq_false_iff_ne]
  rintro rfl
  exact h hc

/-- The first piece of an absolute path is empty, and others follow. -/
theorem isAbsolute_iff (h : path.pieces = first :: rest) :
    path.isAbsolute ↔ first = [] ∧ rest ≠ [] := by
  obtain ⟨text⟩ := path
  cases text with
  | nil =>
    obtain ⟨rfl, rfl⟩ : [] = first ∧ [] = rest := by simpa [pieces, Text.splitBy] using h
    simp [isAbsolute]
  | cons c text =>
    simp only [pieces, Text.splitBy] at h
    by_cases hc : c = '/'
    · obtain ⟨rfl, rfl⟩ : [] = first ∧ Text.splitBy (· == '/') text = rest := by
        simpa [hc] using h
      simp [isAbsolute, hc, Text.splitBy_ne_nil]
    · rw [if_neg (by simpa using hc)] at h
      have hfirst : first ≠ [] := by
        intro hnil
        split at h <;> simp [hnil] at h
      simp [isAbsolute, hc, hfirst]

/-- The components come from the pieces one by one. -/
theorem components_of_pieces (h : path.pieces = first :: rest) :
    path.components =
      (if path.isAbsolute then some .root else firstComponent? first).toList ++
        rest.filterMap innerComponent? := by
  simp only [components, parts, h, List.filterMap_cons, List.filterMap_map]
  have hcomp : (fun part : List Char × Option Component => part.2) ∘
      (fun piece => (piece, innerComponent? piece)) = innerComponent? := rfl
  rw [hcomp]
  split <;> rename_i hc <;> simp [hc]

theorem innerComponent?_of_isName (h : IsName name) :
    innerComponent? name = some (.name name) := by
  simp [innerComponent?, h.ne_nil, h.ne_here, h.ne_up]

theorem firstComponent?_of_isName (h : IsName name) :
    firstComponent? name = some (.name name) := by
  rw [firstComponent?, if_neg h.ne_here, innerComponent?_of_isName h]

/-- A piece that stands for a component stands for two full stops or for a name. -/
theorem innerComponent?_eq_some {c : Component} (hslash : '/' ∉ piece)
    (h : innerComponent? piece = some c) : c = .up ∨ IsName piece ∧ c = .name piece := by
  unfold innerComponent? at h
  split at h
  · cases h
  · rename_i hcounts
    obtain ⟨hnil, hhere⟩ := not_or.mp hcounts
    split at h
    · exact .inl (Option.some.inj h).symm
    · rename_i hup
      exact .inr ⟨⟨hnil, hhere, hup, hslash⟩, (Option.some.inj h).symm⟩

theorem firstComponent?_eq_some {c : Component} (hslash : '/' ∉ piece)
    (h : firstComponent? piece = some c) :
    c = .here ∨ c = .up ∨ IsName piece ∧ c = .name piece := by
  unfold firstComponent? at h
  split at h
  · exact .inl (Option.some.inj h).symm
  · exact .inr (innerComponent?_eq_some hslash h)

theorem firstComponent?_eq_none (h : firstComponent? piece = none) : piece = [] := by
  unfold firstComponent? innerComponent? at h
  split at h
  · cases h
  · rename_i hhere
    split at h
    · rename_i hskip
      exact hskip.resolve_right hhere
    · split at h <;> cases h

/-- The components behind the first are names or two full stops. -/
theorem of_mem_inner {c : Component} (h : path.pieces = first :: rest)
    (hc : c ∈ rest.filterMap innerComponent?) : c = .up ∨ ∃ name, IsName name ∧ c = .name name := by
  obtain ⟨piece, hpiece, hcomponent⟩ := List.mem_filterMap.mp hc
  have hslash : '/' ∉ piece :=
    no_slash_of_mem_pieces path (by rw [h]; exact List.mem_cons_of_mem _ hpiece)
  rcases innerComponent?_eq_some hslash hcomponent with hup | ⟨hname, rfl⟩
  · exact .inl hup
  · exact .inr ⟨piece, hname, rfl⟩

/-- The same of all components but the first. -/
theorem of_mem_tail_components {c : Component} (hc : c ∈ path.components.tail) :
    c = .up ∨ ∃ name, IsName name ∧ c = .name name := by
  obtain ⟨first, rest, hpieces⟩ := List.exists_cons_of_ne_nil path.pieces_ne_nil
  refine of_mem_inner hpieces ?_
  rw [components_of_pieces hpieces] at hc
  generalize (if path.isAbsolute then some .root else firstComponent? first) = lead at hc
  cases lead with
  | none => exact List.mem_of_mem_tail hc
  | some lead => exact hc

/-- The names in a path are names. -/
theorem isName_of_mem_components {name : List Char} (h : .name name ∈ path.components) :
    IsName name := by
  obtain ⟨first, rest, hpieces⟩ := List.exists_cons_of_ne_nil path.pieces_ne_nil
  rw [components_of_pieces hpieces] at h
  rcases List.mem_append.mp h with hfirst | hrest
  · split at hfirst
    · simp at hfirst
    · have hslash : '/' ∉ first := no_slash_of_mem_pieces path (by simp [hpieces])
      rcases firstComponent?_eq_some hslash (Option.mem_toList.mp hfirst) with
        h | h | ⟨hname, h⟩
      · cases h
      · cases h
      · cases h
        exact hname
  · rcases of_mem_inner hpieces hrest with h | ⟨other, hname, h⟩
    · cases h
    · cases h
      exact hname

/-- The components of a path tell whether it is absolute. -/
theorem isAbsolute_iff_head? : path.isAbsolute ↔ path.components.head? = some .root := by
  obtain ⟨first, rest, hpieces⟩ := List.exists_cons_of_ne_nil path.pieces_ne_nil
  rw [components_of_pieces hpieces]
  cases habs : path.isAbsolute with
  | true => simp
  | false =>
    have hslash : '/' ∉ first := no_slash_of_mem_pieces path (by simp [hpieces])
    cases hcomponent : firstComponent? first with
    | none =>
      -- a relative path that starts with an empty piece is the empty path
      have hempty : ¬(first = [] ∧ rest ≠ []) := by
        rw [← isAbsolute_iff hpieces, habs]
        simp
      have hrest : rest = [] := by
        simpa [firstComponent?_eq_none hcomponent] using hempty
      simp [hrest]
    | some c =>
      rcases firstComponent?_eq_some hslash hcomponent with rfl | rfl | ⟨-, rfl⟩ <;> simp

/-! ### One component more -/

theorem isAbsolute_name (h : '/' ∉ name) : (⟨name⟩ : Path).isAbsolute = false := by
  cases name with
  | nil => rfl
  | cons c name => simpa [isAbsolute] using Ne.symm (List.ne_of_not_mem_cons h)

/-- A name goes straight behind a slash and gets one in front of it elsewhere. -/
theorem push_eq (h : '/' ∉ name) :
    path.push name =
      if path.text = [] ∨ path.text.getLast? = some '/' then ⟨path.text ++ name⟩
      else ⟨path.text ++ '/' :: name⟩ := by
  simp [push, join, isAbsolute_name h]

/-- There is text in every path with a name behind it. -/
theorem text_push_ne_nil (h : IsName name) : (path.push name).text ≠ [] := by
  rw [push_eq h.no_slash]
  split
  · exact List.append_ne_nil_of_right_ne_nil _ h.ne_nil
  · exact List.append_ne_nil_of_right_ne_nil _ (List.cons_ne_nil _ _)

/-- The pieces of a path seen from another one stand behind those of that path, in place of an empty
last one if there is one. -/
theorem pieces_join {other : Path} (h : other.isAbsolute = false) (hne : path.text ≠ []) :
    ∃ before, before ≠ [] ∧ (path.pieces = before ∨ path.pieces = before ++ [[]]) ∧
      (path.join other).pieces = before ++ other.pieces := by
  obtain ⟨text⟩ := path
  have hjoin : join ⟨text⟩ other =
      if text.getLast? = some '/' then ⟨text ++ other.text⟩ else ⟨text ++ '/' :: other.text⟩ := by
    have hempty : text ≠ [] := hne
    simp [join, h, hempty]
  rw [hjoin]
  by_cases hslash : text.getLast? = some '/'
  · obtain ⟨before, rfl⟩ : ∃ before, text = before ++ ['/'] := List.getLast?_eq_some_iff.mp hslash
    refine ⟨Text.splitBy (· == '/') before, Text.splitBy_ne_nil _,
      .inr (Text.splitBy_append_cons (by simp) before []), ?_⟩
    rw [if_pos hslash, pieces, List.append_assoc, List.singleton_append,
      Text.splitBy_append_cons (by simp)]
    rfl
  · refine ⟨pieces ⟨text⟩, pieces_ne_nil _, .inl rfl, ?_⟩
    rw [if_neg hslash, pieces, Text.splitBy_append_cons (by simp)]
    rfl

theorem isAbsolute_join {other : Path} (h : other.isAbsolute = false) :
    (path.join other).isAbsolute = path.isAbsolute := by
  obtain ⟨text⟩ := path
  cases text with
  | nil =>
    have hjoin : join ⟨[]⟩ other = other := by simp [join, h]
    rw [hjoin, h]
    rfl
  | cons c text =>
    rw [join, if_neg (by simp [h])]
    split <;> simp [isAbsolute]

/-- What a path seen from another one adds to its components. A full stop at its start is a
component only if nothing is in front of it. -/
theorem components_join {other : Path} (h : other.isAbsolute = false) :
    (path.join other).components = path.components ++
      (if path.text = [] then other.components else other.pieces.filterMap innerComponent?) := by
  have habs : (path.join other).isAbsolute = path.isAbsolute := isAbsolute_join h
  by_cases hempty : path.text = []
  · obtain rfl : path = ⟨[]⟩ := by
      obtain ⟨text⟩ := path
      exact congrArg mk hempty
    have hold : components ⟨[]⟩ = [] := rfl
    rw [if_pos hempty, hold, List.nil_append]
    simp [join, h]
  · obtain ⟨before, hne, hold, hnew⟩ := pieces_join h hempty
    obtain ⟨first, rest, rfl⟩ := List.exists_cons_of_ne_nil hne
    rw [List.cons_append] at hold hnew
    -- an empty last piece, behind a slash at the end, stands for nothing
    have hskip : [([] : List Char)].filterMap innerComponent? = [] := rfl
    rw [if_neg hempty]
    rcases hold with hold | hold
    · rw [components_of_pieces hold, components_of_pieces hnew, habs, List.filterMap_append,
        List.append_assoc]
    · rw [components_of_pieces hold, components_of_pieces hnew, habs, List.filterMap_append,
        List.filterMap_append, hskip, List.append_nil, List.append_assoc]

theorem isAbsolute_push (h : '/' ∉ name) : (path.push name).isAbsolute = path.isAbsolute :=
  isAbsolute_join (isAbsolute_name h)

/-- A name put behind a path is its last piece, in place of an empty one or behind the others. -/
theorem pieces_push (h : '/' ∉ name) (hne : path.text ≠ []) :
    ∃ before, before ≠ [] ∧ (path.pieces = before ∨ path.pieces = before ++ [[]]) ∧
      (path.push name).pieces = before ++ [name] := by
  rw [push, ← pieces_name h]
  exact pieces_join (isAbsolute_name h) hne

/-- A piece put behind a path is what it stands for there, where only the start of a relative path
takes a full stop for a component. -/
theorem components_push_piece (hslash : '/' ∉ piece) :
    (path.push piece).components = path.components ++
      (if path.text = [] then firstComponent? piece else innerComponent? piece).toList := by
  have hpieces := pieces_name hslash
  rw [push, components_join (isAbsolute_name hslash), components_of_pieces hpieces, hpieces,
    isAbsolute_name hslash]
  split
  · simp
  · cases hcomponent : innerComponent? piece <;> simp [hcomponent]

/-- Pieces put behind a path one by one become components behind its own. -/
theorem exists_components_foldl_push (pieces : List (List Char))
    (hslash : ∀ piece ∈ pieces, '/' ∉ piece) (path : Path) :
    ∃ added, (pieces.foldl push path).components = path.components ++ added ∧
      ∀ c ∈ added, ∃ piece ∈ pieces, innerComponent? piece = some c ∨
        path.text = [] ∧ firstComponent? piece = some c := by
  induction pieces generalizing path with
  | nil => exact ⟨[], (List.append_nil _).symm, fun c hc => absurd hc List.not_mem_nil⟩
  | cons piece pieces ih =>
    have hpiece := hslash piece List.mem_cons_self
    obtain ⟨added, hadded, hfrom⟩ :=
      ih (fun other hother => hslash other (List.mem_cons_of_mem _ hother)) (path.push piece)
    rw [components_push_piece hpiece, List.append_assoc] at hadded
    refine ⟨_, hadded, fun c hc => ?_⟩
    rcases List.mem_append.mp hc with hfirst | hlater
    · refine ⟨piece, List.mem_cons_self, ?_⟩
      rw [Option.mem_toList] at hfirst
      split at hfirst
      · rename_i hempty
        exact .inr ⟨hempty, hfirst⟩
      · exact .inl hfirst
    · obtain ⟨other, hother, hcomponent⟩ := hfrom c hlater
      refine ⟨other, List.mem_cons_of_mem _ hother, hcomponent.imp_right fun h => ⟨?_, h.2⟩⟩
      -- a text that was added to does not get shorter
      have hempty := h.1
      rw [push_eq hpiece] at hempty
      split at hempty <;> exact (List.append_eq_nil_iff.mp hempty).1

theorem isAbsolute_foldl_push {pieces : List (List Char)}
    (hslash : ∀ piece ∈ pieces, '/' ∉ piece) (path : Path) :
    (pieces.foldl push path).isAbsolute = path.isAbsolute := by
  induction pieces generalizing path with
  | nil => rfl
  | cons piece pieces ih =>
    rw [List.foldl_cons, ih (fun other hother => hslash other (List.mem_cons_of_mem _ hother)),
      isAbsolute_push (hslash piece List.mem_cons_self)]

/-- A name put behind a path is one component more. -/
theorem components_push (h : IsName name) :
    (path.push name).components = path.components ++ [.name name] := by
  rw [components_push_piece h.no_slash, firstComponent?_of_isName h,
    innerComponent?_of_isName h, ite_self]
  rfl

/-! ### One component less -/

/-- The parts of a path with what they stand for. -/
abbrev Part := List Char × Option Component

variable {ps : List Part}

theorem filterMap_parts (path : Path) : path.parts.filterMap (·.2) = path.components := rfl

theorem trimParts_append_none {part : Part} (h : part.2 = none) :
    trimParts (ps ++ [part]) = trimParts ps := by
  simp [trimParts, h]

theorem trimParts_append_some {part : Part} (h : part.2.isSome) :
    trimParts (ps ++ [part]) = ps ++ [part] := by
  simp [trimParts, Option.isNone_eq_false_iff.mpr h]

/-- Trimming takes off parts at the end that stand for nothing. -/
theorem trimParts_spec (ps : List Part) :
    trimParts ps <+: ps ∧ (trimParts ps).filterMap (·.2) = ps.filterMap (·.2) ∧
      ∀ part ∈ (trimParts ps).getLast?, part.2.isSome := by
  -- parts go from the end, so the induction does too
  induction ps using List.reverseRecOn with
  | nil => simp [trimParts]
  | append_singleton ps part ih =>
    cases hpart : part.2 with
    | none =>
      rw [trimParts_append_none hpart]
      exact ⟨ih.1.trans (List.prefix_append ps [part]), by simp [ih.2.1, hpart], ih.2.2⟩
    | some c =>
      rw [trimParts_append_some (by simp [hpart])]
      simp [hpart]

theorem ofPieces_singleton (h : first ≠ []) : ofPieces [first] = ⟨first⟩ := by
  cases first with
  | nil => exact absurd rfl h
  | cons c first => rfl

/-- Two pieces or more make a path of just these pieces. -/
theorem pieces_ofPieces {next : List Char} (h : ∀ piece ∈ first :: next :: rest, '/' ∉ piece) :
    (ofPieces (first :: next :: rest)).pieces = first :: next :: rest := by
  have hof : ofPieces (first :: next :: rest) =
      ⟨Text.joinWith ['/'] (first :: next :: rest)⟩ := by
    cases first <;> rfl
  rw [hof]
  exact Text.splitBy_joinWith (by simp) h

/-- The first parts of a path are none, or those of the first piece and of pieces behind it. -/
theorem eq_nil_or_of_prefix_parts (hpieces : path.pieces = first :: rest)
    (hinitial : ps <+: path.parts) :
    ps = [] ∨ ∃ taken, taken <+: rest ∧
      ps = (first, if path.isAbsolute then some .root else firstComponent? first) ::
        taken.map fun piece => (piece, innerComponent? piece) := by
  rw [parts, hpieces] at hinitial
  refine (List.prefix_cons_iff.mp hinitial).imp_right ?_
  rintro ⟨inner, rfl, behind, hbehind⟩
  obtain ⟨taken, left, rfl, rfl, -⟩ := List.map_eq_append_iff.mp hbehind.symm
  exact ⟨taken, List.prefix_append taken left, rfl⟩

/-- Two pieces or more from the start of a path make one that is absolute if the path is. -/
theorem components_ofPieces_cons {next : List Char} {taken : List (List Char)}
    (hpieces : path.pieces = first :: rest) (htaken : next :: taken <+: rest) :
    (ofPieces (first :: next :: taken)).components =
      (if path.isAbsolute then some .root else firstComponent? first).toList ++
        (next :: taken).filterMap innerComponent? := by
  have hslash : ∀ piece ∈ first :: rest, '/' ∉ piece := fun piece h =>
    no_slash_of_mem_pieces path (hpieces ▸ h)
  have hsplit : pieces (ofPieces (first :: next :: taken)) = first :: next :: taken := by
    refine pieces_ofPieces fun piece hpiece => hslash piece ?_
    rcases List.mem_cons.mp hpiece with rfl | hpiece
    · exact List.mem_cons_self
    · exact List.mem_cons_of_mem _ (htaken.subset hpiece)
  have hrest : rest ≠ [] := by
    rintro rfl
    simp at htaken
  have habs : (ofPieces (first :: next :: taken)).isAbsolute = path.isAbsolute := by
    rw [Bool.eq_iff_iff, isAbsolute_iff hsplit, isAbsolute_iff hpieces]
    simp [hrest]
  rw [components_of_pieces hsplit, habs]

/-- The first parts of a path, up to one that counts, make a path of their own. -/
theorem components_ofPieces (path : Path) (hinitial : ps <+: path.parts)
    (hlast : ∀ part ∈ ps.getLast?, part.2.isSome) :
    (ofPieces (ps.map (·.1))).components = ps.filterMap (·.2) := by
  obtain ⟨first, rest, hpieces⟩ := List.exists_cons_of_ne_nil path.pieces_ne_nil
  rcases eq_nil_or_of_prefix_parts hpieces hinitial with rfl | ⟨taken, htaken, rfl⟩
  · rfl
  have hmap : (taken.map fun piece => (piece, innerComponent? piece)).map Prod.fst = taken := by
    rw [List.map_map]
    exact List.map_id taken
  have hfilter : List.filterMap (fun part : Part => part.2)
      (taken.map fun piece => (piece, innerComponent? piece)) =
        taken.filterMap innerComponent? := by
    rw [List.filterMap_map]
    rfl
  have hcons (c : Option Component) (cs : List Part) :
      ((first, c) :: cs).filterMap (·.2) = c.toList ++ cs.filterMap (·.2) := by
    cases c <;> rfl
  rw [List.map_cons, hmap, hcons, hfilter]
  -- whether the path is absolute is told by its first piece, but only if others follow
  cases taken with
  | nil =>
    cases habs : path.isAbsolute with
    | true =>
      obtain ⟨rfl, -⟩ := (isAbsolute_iff hpieces).mp habs
      rfl
    | false =>
      have hcounts : (firstComponent? first).isSome := by simpa [habs] using hlast
      have hfirst : first ≠ [] := by
        rintro rfl
        simp [firstComponent?, innerComponent?] at hcounts
      have hfree : '/' ∉ first :=
        no_slash_of_mem_pieces path (hpieces ▸ List.mem_cons_self)
      rw [ofPieces_singleton hfirst, components_of_pieces (pieces_name hfree),
        isAbsolute_name hfree]
  | cons next taken => exact components_ofPieces_cons hpieces htaken

theorem map_fst_parts (path : Path) : path.parts.map (·.1) = path.pieces := by
  rw [parts]
  cases path.pieces with
  | nil => rfl
  | cons first rest => simp [Function.comp_def]

/-- A piece that stands for a name is that name. -/
theorem eq_of_mem_parts (h : (piece, some (.name name)) ∈ path.parts) : piece = name := by
  have hinner {other : List Char} (hother : innerComponent? other = some (.name name)) :
      other = name := by
    unfold innerComponent? at hother
    split at hother
    · cases hother
    · split at hother
      · cases hother
      · exact Component.name.inj (Option.some.inj hother)
  obtain ⟨first, rest, hpieces⟩ := List.exists_cons_of_ne_nil path.pieces_ne_nil
  rw [parts, hpieces, List.mem_cons] at h
  rcases h with hfirst | hrest
  · obtain ⟨rfl, hcomponent⟩ := Prod.mk.inj hfirst
    split at hcomponent
    · cases hcomponent
    · unfold firstComponent? at hcomponent
      split at hcomponent
      · cases hcomponent
      · exact hinner hcomponent.symm
  · obtain ⟨other, -, hother⟩ := List.mem_map.mp hrest
    obtain ⟨rfl, hcomponent⟩ := Prod.mk.inj hother
    exact hinner hcomponent

/-- The parts of the directory that a path lies in are its first parts, up to one that counts. -/
theorem parent?_eq_some {parent : Path} (h : path.parent? = some parent) :
    ∃ ps : List Part, parent = ofPieces (ps.map (·.1)) ∧ ps <+: path.parts ∧
      (∀ part ∈ ps.getLast?, part.2.isSome) ∧
      ∃ c, path.components = ps.filterMap (·.2) ++ [c] := by
  obtain ⟨hinitial, hcomponents, hlast⟩ := trimParts_spec path.parts
  unfold parent? at h
  split at h
  · cases h
  · cases h
  · rename_i part before hne hreverse
    have htrim : trimParts path.parts = before.reverse ++ [part] := by
      rw [← List.reverse_reverse (trimParts path.parts), hreverse, List.reverse_cons]
    have hpart : part.2.isSome := hlast part (by simp [htrim])
    obtain ⟨hbefore, hkept, htrimmed⟩ := trimParts_spec before.reverse
    obtain ⟨c, hc⟩ := Option.isSome_iff_exists.mp hpart
    refine ⟨_, (Option.some.inj h).symm,
      hbefore.trans ((htrim ▸ List.prefix_append before.reverse [part]).trans hinitial),
      htrimmed, c, ?_⟩
    rw [hkept, ← filterMap_parts, ← hcomponents, htrim, List.filterMap_append]
    simp [hc]

/-- A path has one component more than the directory that it lies in. -/
theorem exists_components_parent? {parent : Path} (h : path.parent? = some parent) :
    ∃ c, path.components = parent.components ++ [c] := by
  obtain ⟨ps, rfl, hinitial, hlast, hcomponents⟩ := parent?_eq_some h
  rwa [components_ofPieces path hinitial hlast]

/-- The directory that a path lies in has the components but the last. -/
theorem components_parent? {parent : Path} (h : path.parent? = some parent) :
    parent.components = path.components.dropLast := by
  obtain ⟨c, hcomponents⟩ := exists_components_parent? h
  rw [hcomponents, List.dropLast_concat]

/-- The pieces of a path start with those of the directory that it lies in, if that has a name. -/
theorem pieces_parent? {parent : Path} (h : path.parent? = some parent)
    (hlast : parent.components.getLast? = some (.name name)) :
    ∃ rest, path.pieces = parent.pieces ++ rest ∧ parent.pieces.getLast? = some name := by
  obtain ⟨ps, rfl, hinitial, hcounts, -⟩ := parent?_eq_some h
  rw [components_ofPieces path hinitial hcounts] at hlast
  -- the last part stands for a name, so its piece is the name
  obtain ⟨front, c, rfl⟩ : ∃ front c, ps = front ++ [(name, c)] := by
    cases ps using List.reverseRecOn with
    | nil => cases hlast
    | append_singleton front part =>
      obtain ⟨piece, c⟩ := part
      obtain ⟨d, rfl⟩ := Option.isSome_iff_exists.mp (hcounts _ List.getLast?_concat)
      obtain rfl : d = .name name := by simpa using hlast
      have hmem : (piece, some (.name name)) ∈ path.parts := hinitial.subset (by simp)
      exact ⟨front, some (.name name), by rw [eq_of_mem_parts hmem]⟩
  have hname : name ≠ [] := by
    have hmem : Component.name name ∈ path.components := by
      rw [← filterMap_parts]
      exact (hinitial.filterMap _).subset (List.mem_of_getLast? hlast)
    exact (isName_of_mem_components hmem).ne_nil
  have hslash : ∀ piece ∈ (front ++ [(name, c)]).map (·.1), '/' ∉ piece := fun piece hpiece => by
    refine no_slash_of_mem_pieces path ?_
    rw [← map_fst_parts]
    exact (hinitial.map _).subset hpiece
  have hpieces : (ofPieces ((front ++ [(name, c)]).map (·.1))).pieces =
      (front ++ [(name, c)]).map (·.1) := by
    cases front with
    | nil =>
      rw [List.nil_append, List.map_singleton, ofPieces_singleton hname,
        pieces_name (hslash name (by simp))]
    | cons part front =>
      obtain ⟨next, others, hnext⟩ : ∃ next others,
          (part :: front ++ [(name, c)]).map (·.1) = part.1 :: next :: others := by
        cases front <;> simp
      rw [hnext] at hslash ⊢
      exact pieces_ofPieces hslash
  obtain ⟨rest, hrest⟩ := hinitial.map (·.1)
  rw [map_fst_parts] at hrest
  exact ⟨rest, by rw [hpieces, hrest], by rw [hpieces]; simp⟩

/-- The directory that a path lies in is absolute if the path is, if it has any components. -/
theorem isAbsolute_parent? {parent : Path} (h : path.parent? = some parent)
    (hne : parent.components ≠ []) : parent.isAbsolute = path.isAbsolute := by
  have hcomponents := components_parent? h
  obtain ⟨c, front, hfront⟩ := List.exists_cons_of_ne_nil hne
  have hhead : path.components.head? = some c := by
    cases hpath : path.components with
    | nil => simp [hpath, hfront] at hcomponents
    | cons d others =>
      rw [hpath, hfront] at hcomponents
      cases others with
      | nil => cases hcomponents
      | cons e others => rw [(List.cons.inj hcomponents).1]; rfl
  rw [Bool.eq_iff_iff, isAbsolute_iff_head?, isAbsolute_iff_head?, hfront, hhead]
  rfl

/-- A path that ends in anything but the root lies in a directory. -/
theorem isSome_parent? {c : Component} (h : path.components.getLast? = some c) (hc : c ≠ .root) :
    path.parent?.isSome := by
  obtain ⟨-, hcomponents, -⟩ := trimParts_spec path.parts
  unfold parent?
  split
  · rename_i hnil
    rw [List.reverse_eq_nil_iff] at hnil
    rw [← filterMap_parts, ← hcomponents, hnil] at h
    cases h
  · rename_i piece before hreverse
    have htrim : trimParts path.parts = before.reverse ++ [(piece, some .root)] := by
      rw [← List.reverse_reverse (trimParts path.parts), hreverse, List.reverse_cons]
    rw [← filterMap_parts, ← hcomponents, htrim] at h
    simp at h
    exact absurd h.symm hc
  · rfl

theorem getLast?_of_name? {old : List Char} (h : path.name? = some old) :
    path.components.getLast? = some (.name old) := by
  unfold name? at h
  split at h
  · rename_i hend
    rw [hend, Option.some.inj h]
  · cases h

/-- Another name in place of the last one, or behind a path that ends in none. -/
theorem components_withName (h : IsName name) :
    (path.withName name).components =
      (if path.name?.isSome then path.components.dropLast else path.components) ++
        [.name name] := by
  unfold withName
  cases hlast : path.name? with
  | none => simpa using components_push h
  | some old =>
    have hend := getLast?_of_name? hlast
    obtain ⟨parent, hparent⟩ := Option.isSome_iff_exists.mp (isSome_parent? hend (by simp))
    simp [hparent, components_push h, components_parent? hparent]

/-- A new name does not make a path absolute or relative. -/
theorem isAbsolute_withName (h : IsName name) :
    (path.withName name).isAbsolute = path.isAbsolute := by
  rw [Bool.eq_iff_iff, isAbsolute_iff_head?, isAbsolute_iff_head?, components_withName h]
  cases hlast : path.name? with
  | none => cases hcomponents : path.components <;> simp
  | some old =>
    obtain ⟨before, hbefore⟩ := List.getLast?_eq_some_iff.mp (getLast?_of_name? hlast)
    rw [hbefore, if_pos Option.isSome_some, List.dropLast_concat]
    cases before <;> simp

/-! ### Plain paths -/

/-- Whether a piece takes a path further: it is neither empty nor a full stop. -/
def counts (piece : List Char) : Bool := piece ≠ [] ∧ piece ≠ ['.']

/-- No piece of a plain path goes up. -/
theorem IsPlain.ne_up (h : path.IsPlain) (hpiece : piece ∈ path.pieces) : piece ≠ ['.', '.'] := by
  rintro rfl
  obtain ⟨first, rest, hpieces⟩ := List.exists_cons_of_ne_nil path.pieces_ne_nil
  have hup : Component.up ∈ path.components := by
    rw [components_of_pieces hpieces]
    rw [hpieces] at hpiece
    rcases List.mem_cons.mp hpiece with rfl | hrest
    · have habs : path.isAbsolute = false := by
        rw [Bool.eq_false_iff, Ne, isAbsolute_iff hpieces]
        simp
      simp [habs, firstComponent?, innerComponent?]
    · exact List.mem_append_right _ (List.mem_filterMap.mpr ⟨_, hrest, rfl⟩)
  exact (h _ hup).2 rfl

theorem filterMap_inner (h : ∀ piece ∈ rest, piece ≠ ['.', '.']) :
    rest.filterMap innerComponent? = (rest.filter counts).map .name := by
  induction rest with
  | nil => rfl
  | cons piece rest ih =>
    have hrest := ih fun other hother => h other (List.mem_cons_of_mem _ hother)
    have hpiece := h piece List.mem_cons_self
    by_cases hcounts : counts piece
    · have hinner : innerComponent? piece = some (.name piece) := by
        simp_all [innerComponent?, counts]
      rw [List.filterMap_cons_some hinner, List.filter_cons_of_pos hcounts, List.map_cons, hrest]
    · have hinner : innerComponent? piece = none := by
        simp only [counts, decide_eq_true_eq, not_and_or, not_not] at hcounts
        simp [innerComponent?, hcounts]
      rw [List.filterMap_cons_none hinner, List.filter_cons_of_neg hcounts, hrest]

theorem IsPlain.components_eq_pieces (h : path.IsPlain) :
    path.components =
      (if path.isAbsolute then [.root] else []) ++ (path.pieces.filter counts).map .name := by
  obtain ⟨first, rest, hpieces⟩ := List.exists_cons_of_ne_nil path.pieces_ne_nil
  have hrest : ∀ piece ∈ rest, piece ≠ ['.', '.'] := fun piece hpiece =>
    h.ne_up (by rw [hpieces]; exact List.mem_cons_of_mem _ hpiece)
  have hcomponents := components_of_pieces hpieces
  rw [filterMap_inner hrest] at hcomponents
  rw [hpieces]
  cases habs : path.isAbsolute with
  | true =>
    -- the first piece is empty, and the root stands in its place
    obtain ⟨rfl, -⟩ := (isAbsolute_iff hpieces).mp habs
    rw [habs] at hcomponents
    exact hcomponents
  | false =>
    have hfirst : first ≠ ['.'] := by
      rintro rfl
      refine (h .here ?_).1 rfl
      rw [hcomponents, habs]
      simp [firstComponent?]
    have hinner : firstComponent? first = innerComponent? first := if_neg hfirst
    have hup : ∀ piece ∈ [first], piece ≠ ['.', '.'] := by
      rintro piece hpiece
      exact h.ne_up (by rw [hpieces]; exact List.mem_append_left rest hpiece)
    have hone : (innerComponent? first).toList = ([first].filter counts).map .name := by
      rw [← filterMap_inner hup]
      cases hc : innerComponent? first <;> simp [hc]
    rw [hcomponents, habs, if_neg (by simp), hinner, hone, ← List.map_append, ← List.filter_append]
    rfl

theorem IsPlain.names_eq_pieces (h : path.IsPlain) : path.names = path.pieces.filter counts := by
  rw [names, h.components_eq_pieces, List.filterMap_append, List.filterMap_map]
  cases path.isAbsolute with
  | true => exact List.filterMap_some
  | false => exact List.filterMap_some

/-- A plain path is its names, behind the root if it is absolute. -/
theorem IsPlain.components_eq (h : path.IsPlain) :
    path.components = (if path.isAbsolute then [.root] else []) ++ path.names.map .name := by
  rw [h.names_eq_pieces]
  exact h.components_eq_pieces

theorem IsPlain.withName (h : path.IsPlain) (hname : IsName name) :
    (path.withName name).IsPlain := by
  intro c hc
  rw [components_withName hname] at hc
  rcases List.mem_append.mp hc with hold | hnew
  · split at hold
    · exact h c ((List.dropLast_subset path.components hold))
    · exact h c hold
  · rw [List.mem_singleton.mp hnew]
    simp

/-- Plain paths that start at one place are the same as soon as their names are. -/
theorem IsPlain.components_eq_iff {other : Path} (h : path.IsPlain) (hother : other.IsPlain)
    (habs : path.isAbsolute = other.isAbsolute) :
    path.components = other.components ↔ path.names = other.names := by
  constructor
  · intro hsame
    rw [names, names, hsame]
  · intro hnames
    rw [h.components_eq, hother.components_eq, habs, hnames]

end MediaShelf.Path
