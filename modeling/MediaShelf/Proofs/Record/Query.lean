import MediaShelf.Proofs.Text.CaseFold
import MediaShelf.Proofs.Text.Lowercase
import MediaShelf.Proofs.Text.Normalize
import MediaShelf.Proofs.Text.Split
import MediaShelf.Record.Basic

/-!
# Names of searches

The name under which a search is kept consists of its mode, its term in small letters and its year,
with underscores between them. None of the first two holds an underscore, if the term is clean, so
all three can be read off the name.

## Main definitions

* `Query.IsForShow` — a search for a show that can be read off its name but for letter case
* `Query.IsNormal` — queries as searchers make them
* `Query.SameButPart` — queries that differ at most in letter case and in the part

## Main results

* `Query.key_eq_iff` — searches that share a name
* `Query.IsForShow.of_key_eq` — searches for shows that share a name differ in letter case alone
* `Query.key_eq_iff_sameButPart` — queries that share a name differ in the part alone
* `Query.key_eq_iff_of_isNormal` — what two queries that share a name have in common
* `Text.not_mem_lowercase_of_isClean` — no underscore comes into clean text in small letters
-/

namespace MediaShelf

namespace Text

variable {text : List Char}

/-- Clean text has no other letters than those of ASCII. -/
theorem lowercase_of_isClean (h : ∀ c ∈ text, isClean c) : lowercase text = asciiLowercase text :=
  lowercase_of_ascii fun c hc => toNat_of_isClean (h c hc)

/-- No underscore comes into clean text in small letters. -/
theorem not_mem_lowercase_of_isClean (h : ∀ c ∈ text, isClean c) : '_' ∉ lowercase text := by
  rw [lowercase_of_isClean h]
  intro hmem
  obtain ⟨c, hc, hlower⟩ := List.mem_map.mp hmem
  have hcase := toLower_ascii c.toNat (toNat_of_isClean (h c hc))
  rw [Char.ofNat_toNat, hlower] at hcase
  rcases hcase with hsame | ⟨-, halpha⟩
  -- a character that is lowered to an underscore is one, or the underscore would be a letter
  · have hclean := h c hc
    rw [← hsame] at hclean
    revert hclean
    decide
  · revert halpha
    decide

end Text

theorem Mode.label_injective {a b : Mode} (h : a.label = b.label) : a = b := by
  cases a <;> cases b <;> first | rfl | exact absurd h (by decide)

theorem Mode.not_mem_label (mode : Mode) : '_' ∉ mode.label.toList := by
  cases mode <;> decide

namespace Query

theorem toList_key (query : Query) :
    query.key.toList = query.mode.label.toList ++
      '_' :: (Text.lowercase query.term.toList ++ '_' :: (query.year.getD "any").toList) := by
  simp [key]

/-- Searches without underscores in their terms share a name if they agree in mode, in the term but
for letter case, and in the year, where `any` stands for none. -/
theorem key_eq_iff {a b : Query} (ha : '_' ∉ Text.lowercase a.term.toList)
    (hb : '_' ∉ Text.lowercase b.term.toList) :
    a.key = b.key ↔ a.mode = b.mode ∧
      Text.lowercase a.term.toList = Text.lowercase b.term.toList ∧
      a.year.getD "any" = b.year.getD "any" := by
  constructor
  · intro h
    have hparts := congrArg String.toList h
    rw [toList_key, toList_key] at hparts
    -- the mode ends at the first underscore and the term at the second
    obtain ⟨hmode, hrest⟩ := Text.split_unique a.mode.not_mem_label b.mode.not_mem_label hparts
    obtain ⟨hterm, hyear⟩ := Text.split_unique ha hb hrest
    exact ⟨Mode.label_injective (String.toList_inj.mp hmode), hterm, String.toList_inj.mp hyear⟩
  · rintro ⟨hmode, hterm, hyear⟩
    rw [key, key, hmode, hterm, hyear]

/-- The word for a missing year tells other years apart from none. -/
theorem year_eq_of_getD {a b : Query} (ha : a.year ≠ some "any") (hb : b.year ≠ some "any")
    (h : a.year.getD "any" = b.year.getD "any") : a.year = b.year := by
  cases hyear : a.year <;> cases hother : b.year <;> simp_all

/-- A search for a show with no underscore in its term, nor the word for a missing year in place of
its year. -/
structure IsForShow (query : Query) : Prop where
  mode : query.mode = .tvShow
  part : query.part = none
  term : '_' ∉ Text.lowercase query.term.toList
  year : query.year ≠ some "any"

/-- Searches for shows that share a name differ in letter case alone. -/
theorem IsForShow.of_key_eq {a b : Query} (ha : a.IsForShow) (hb : b.IsForShow)
    (h : a.key = b.key) : Text.lowercase a.term.toList = Text.lowercase b.term.toList ∧
      a.year = b.year ∧ a.mode = b.mode ∧ a.part = b.part := by
  obtain ⟨hmode, hterm, hyear⟩ := (key_eq_iff ha.term hb.term).mp h
  exact ⟨hterm, year_eq_of_getD ha.year hb.year hyear, hmode, ha.part.trans hb.part.symm⟩

/-! ### Queries as searchers make them -/

variable {a b : Query}

/-- A query as searchers make it: for normalized text, and digits if there is a year. -/
structure IsNormal (query : Query) : Prop where
  term : ∃ text, query.term = Text.normalize text
  year : ∀ year, query.year = some year → ∀ c ∈ year.toList, c.isDigit

/-- The queries agree in all but the part they ask for. The letter case of terms does not count. -/
structure SameButPart (a b : Query) : Prop where
  mode : a.mode = b.mode
  term : Text.lowercase a.term.toList = Text.lowercase b.term.toList
  year : a.year = b.year

instance (a b : Query) : Decidable (a.SameButPart b) :=
  decidable_of_iff (a.mode = b.mode ∧
      Text.lowercase a.term.toList = Text.lowercase b.term.toList ∧ a.year = b.year)
    ⟨fun h => ⟨h.1, h.2.1, h.2.2⟩, fun h => ⟨h.mode, h.term, h.year⟩⟩

theorem SameButPart.refl (query : Query) : query.SameButPart query := ⟨rfl, rfl, rfl⟩

/-- Terms are in normal form, so they are clean. -/
theorem IsNormal.isClean (h : a.IsNormal) : ∀ c ∈ a.term.toList, Text.isClean c := by
  obtain ⟨text, hterm⟩ := h.term
  intro c hc
  rw [hterm, Text.normalize, String.toList_ofList] at hc
  exact Text.isClean_of_mem_normalizeChars hc

theorem IsNormal.not_mem_term (h : a.IsNormal) : '_' ∉ Text.lowercase a.term.toList :=
  Text.not_mem_lowercase_of_isClean h.isClean

/-- No year is spelled as the word for a missing one. -/
theorem IsNormal.year_ne_any (h : a.IsNormal) : a.year ≠ some "any" := by
  intro hany
  have hletter := h.year "any" hany 'a' (by decide)
  revert hletter
  decide

/-- Normal queries share a name if they differ in the part alone. -/
theorem key_eq_iff_sameButPart (ha : a.IsNormal) (hb : b.IsNormal) :
    a.key = b.key ↔ a.SameButPart b := by
  rw [key_eq_iff ha.not_mem_term hb.not_mem_term]
  constructor
  · rintro ⟨hmode, hterm, hyear⟩
    exact ⟨hmode, hterm, year_eq_of_getD ha.year_ne_any hb.year_ne_any hyear⟩
  · rintro ⟨hmode, hterm, hyear⟩
    exact ⟨hmode, hterm, congrArg (Option.getD · "any") hyear⟩

/-- Queries as searchers make them share a name exactly if they have the same mode and the same year
and their terms differ at most in the case of ASCII letters. -/
theorem key_eq_iff_of_isNormal (ha : a.IsNormal) (hb : b.IsNormal) :
    a.key = b.key ↔ a.mode = b.mode ∧
      Text.asciiLowercase a.term.toList = Text.asciiLowercase b.term.toList ∧ a.year = b.year := by
  rw [key_eq_iff_sameButPart ha hb, ← Text.lowercase_of_isClean ha.isClean,
    ← Text.lowercase_of_isClean hb.isClean]
  constructor
  · intro h
    exact ⟨h.mode, h.term, h.year⟩
  · rintro ⟨hmode, hterm, hyear⟩
    exact ⟨hmode, hterm, hyear⟩

/-- Accents and letter case do not tell terms apart. No underscore is left of that in a title, so
the year in the title is not taken for the year of the query. -/
theorem key_eq_iff_of_isNormal_underscores :
    let query (text : String) (year : Option String) : Query :=
      { term := Text.normalize text, year, mode := .film }
    (query "Pokémon_2000" none).key = (query "POKÉMON?2000" none).key ∧
      (query "Heat_1995" none).key ≠ (query "Heat" (some "1995")).key := by
  intro query
  have hundated (text : String) : (query text none).IsNormal := ⟨⟨text, rfl⟩, fun _ h => nomatch h⟩
  have hdated : (query "Heat" (some "1995")).IsNormal := by
    refine ⟨⟨"Heat", rfl⟩, fun year hyear => ?_⟩
    obtain rfl : "1995" = year := Option.some.inj hyear
    exact List.all_eq_true.mp (by decide)
  constructor
  · exact (key_eq_iff_of_isNormal (hundated _) (hundated _)).mpr ⟨rfl, by decide +kernel, rfl⟩
  · intro hkey
    obtain ⟨-, -, hyear⟩ := (key_eq_iff_of_isNormal (hundated _) hdated).mp hkey
    cases hyear

end Query

end MediaShelf
