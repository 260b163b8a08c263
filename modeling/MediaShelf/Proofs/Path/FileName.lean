import Mathlib.Data.List.Basic
import MediaShelf.Proofs.Path.Components

/-!
# Stems and extensions

## Main results

* `stem_append_extension` — a name is its stem and its extension
* `splitExtension_append_dot`, `stem_append_dot` — what the last full stop of a name separates
* `no_slash_splitExtension` — the parts of a name have no slashes that the name has not
* `parts_append_name` — a name behind a slash is the last part of a path
* `withName_append_name`, `withName_name` — another name at the end of a path
-/

namespace MediaShelf.Path

/-- A name is its stem and its extension. -/
theorem stem_append_extension (name : List Char) :
    stem name ++ ((extension? name).map ('.' :: ·)).getD [] = name := by
  unfold stem extension? splitExtension
  dsimp only
  split
  · exact List.append_nil name
  · split
    · exact List.append_nil name
    · rename_i hbefore _
      have hsplit := List.takeWhile_append_dropWhile (p := (· != '.')) (l := name.reverse)
      -- what stands behind the last part, seen from the end, starts with the full stop
      obtain ⟨c, rest, hrest⟩ : ∃ c rest, name.reverse.dropWhile (· != '.') = c :: rest :=
        List.exists_cons_of_ne_nil fun hnil => by simp [hnil] at hbefore
      have hc : c = '.' := by
        have hhead := List.head?_dropWhile_not (· != '.') name.reverse
        simpa [hrest] using hhead
      subst hc
      rw [hrest] at hsplit
      have hname := congrArg List.reverse hsplit
      rw [List.reverse_reverse] at hname
      rw [hrest]
      exact Eq.trans (by simp) hname

/-- The last part of a name and what is before it have no slashes that the name has not. -/
theorem no_slash_splitExtension {name : List Char} (h : '/' ∉ name) :
    '/' ∉ stem name ∧ ∀ ext ∈ extension? name, '/' ∉ ext := by
  have hbefore : '/' ∉ ((name.reverse.dropWhile (· != '.')).drop 1).reverse := fun hmem =>
    h (List.mem_reverse.mp
      (List.dropWhile_subset _ (List.mem_of_mem_drop (List.mem_reverse.mp hmem))))
  have hbehind : '/' ∉ (name.reverse.takeWhile (· != '.')).reverse := fun hmem =>
    h (List.mem_reverse.mp (List.takeWhile_subset _ (List.mem_reverse.mp hmem)))
  unfold stem extension? splitExtension
  dsimp only
  split
  · exact ⟨h, by simp⟩
  · split
    · exact ⟨h, by simp⟩
    · refine ⟨hbefore, ?_⟩
      simpa using hbehind

/-- What stands on both sides of the last full stop of a name, unless nothing is left of it but a
full stop. -/
theorem splitExtension_append_dot {front ext : List Char} (hext : '.' ∉ ext) (hne : front ≠ [])
    (hdots : front ++ '.' :: ext ≠ ['.', '.']) :
    splitExtension (front ++ '.' :: ext) = (front, some ext) := by
  have hhead : ∀ c ∈ ext.reverse, (c != '.') = true := fun c hc =>
    bne_iff_ne.mpr fun heq => hext (heq ▸ List.mem_reverse.mp hc)
  have hbehind : (front ++ '.' :: ext).reverse = ext.reverse ++ '.' :: front.reverse := by simp
  have hstop : ∀ c ∈ ('.' :: front.reverse).head?, (c != '.') = false := by simp
  have hdrop := Text.dropWhile_append_of_head hhead hstop
  have htake := Text.takeWhile_append_of_head hhead hstop
  obtain ⟨c, rest, hrest⟩ : ∃ c rest, front.reverse = c :: rest :=
    List.exists_cons_of_ne_nil fun hnil => hne (List.reverse_eq_nil_iff.mp hnil)
  rw [splitExtension, hbehind, hdrop, htake, List.drop_one, List.tail_cons, hrest]
  simp only [if_neg hdots]
  rw [← hrest, List.reverse_reverse, List.reverse_reverse]

/-- What stands in front of the last full stop of a name is its stem, unless nothing is left of it
but a full stop. -/
theorem stem_append_dot {front ext : List Char} (hext : '.' ∉ ext) (hne : front ≠ [])
    (hdot : front ≠ ['.']) : stem (front ++ '.' :: ext) = front := by
  rw [stem, splitExtension_append_dot hext hne]
  intro h
  cases front with
  | nil => exact hne rfl
  | cons c rest => cases rest with
    | nil => exact hdot (by rw [(List.cons.inj h).1])
    | cons d rest => simpa using congrArg List.length h

/-! ### Names at the end of paths -/

variable {name folder other : List Char}

/-- The pieces of a text make it up again. -/
theorem ofPieces_pieces {text : List Char} (h : text ≠ []) : ofPieces (pieces ⟨text⟩) = ⟨text⟩ := by
  have hjoin : Text.joinWith ['/'] (pieces ⟨text⟩) = text := Text.joinWith_splitBy '/' text
  unfold ofPieces
  split
  · rename_i hpieces
    rw [hpieces] at hjoin
    exact absurd hjoin.symm h
  · rw [hjoin]

/-- A name behind a slash is the last part of a path. -/
theorem parts_append_name (h : IsName name) (front : List Char) :
    parts ⟨front ++ '/' :: name⟩ =
      (if front = [] then [([], some .root)] else parts ⟨front⟩) ++
        [(name, some (.name name))] := by
  have hpieces : pieces ⟨front ++ '/' :: name⟩ = pieces ⟨front⟩ ++ [name] := by
    rw [pieces, Text.splitBy_append_cons (by decide), ← pieces_name h.no_slash, pieces, pieces]
  cases front with
  | nil =>
    rw [parts, hpieces]
    simp [pieces, Text.splitBy, isAbsolute, innerComponent?_of_isName h]
  | cons c front =>
    have habs : isAbsolute ⟨c :: front ++ '/' :: name⟩ = isAbsolute ⟨c :: front⟩ := rfl
    obtain ⟨first, rest, hrest⟩ := List.exists_cons_of_ne_nil (pieces_ne_nil ⟨c :: front⟩)
    rw [parts, hpieces, parts, hrest, habs, if_neg (by simp)]
    simp [innerComponent?_of_isName h]

theorem name?_append_name (h : IsName name) (front : List Char) :
    name? ⟨front ++ '/' :: name⟩ = some name := by
  simp [name?, components, parts_append_name h]

/-- A file in a directory with a name is renamed in that directory. -/
theorem withName_append_name (hfolder : IsName folder) (h : IsName name)
    (hother : '/' ∉ other) (front : List Char) :
    withName ⟨front ++ '/' :: folder ++ '/' :: name⟩ other =
      ⟨front ++ '/' :: folder ++ '/' :: other⟩ := by
  have hparent : parent? ⟨front ++ '/' :: folder ++ '/' :: name⟩ =
      some ⟨front ++ '/' :: folder⟩ := by
    rw [parent?, parts_append_name h, if_neg (by simp), trimParts_append_some rfl,
      List.reverse_append, List.reverse_singleton, List.singleton_append]
    dsimp only
    rw [List.reverse_reverse, parts_append_name hfolder, trimParts_append_some rfl,
      ← parts_append_name hfolder, map_fst_parts, ofPieces_pieces (by simp)]
  have hlast : (front ++ '/' :: folder).getLast? ≠ some '/' := by
    rw [List.append_cons, List.getLast?_append_of_ne_nil _ hfolder.ne_nil]
    exact fun hslash => hfolder.no_slash (List.mem_of_getLast? hslash)
  rw [withName, name?_append_name h, hparent, Option.getD_some, push_eq hother,
    if_neg (not_or.mpr ⟨by simp, hlast⟩)]

/-- A name alone is the only part of its path. -/
theorem parts_name (h : IsName name) : parts ⟨name⟩ = [(name, some (.name name))] := by
  rw [parts, pieces_name h.no_slash, isAbsolute_name h.no_slash]
  simp [firstComponent?_of_isName h]

theorem name?_name (h : IsName name) : name? ⟨name⟩ = some name := by
  simp [name?, components, parts_name h]

/-- A file that is named alone gets the other name. -/
theorem withName_name (h : IsName name) (hother : '/' ∉ other) :
    withName ⟨name⟩ other = ⟨other⟩ := by
  have hparent : parent? ⟨name⟩ = some ⟨[]⟩ := by
    rw [parent?, parts_name h]
    rfl
  rw [withName, name?_name h, hparent, Option.getD_some, push_eq hother, if_pos (.inl rfl),
    List.nil_append]

end MediaShelf.Path
