import MediaShelf.Proofs.Pattern.Decoration
import MediaShelf.Proofs.Pattern.Match
import MediaShelf.Proofs.Regex.Lazy
import MediaShelf.Proofs.Search.Term
import MediaShelf.Proofs.Text.Normalize
import MediaShelf.Proofs.Text.Split
import MediaShelf.Search.Show

/-!
# What is asked about episode files

However a file is called and whatever pattern and junk its directory has, the name of the show that
is asked for is a term, and a year beside it is one of the last two centuries. A year at the end of
a name takes all blanks in front of it along, since the name is matched lazily.

## Main definitions

* `IsPlainYear` — a year of the last two centuries in ASCII digits
* `ShowQuery.Asks` — a query as it should be

## Main results

* `splitTrailingYear_cases`, `isTerm_splitTrailingYear` — a name and the year at its end
* `isTerm_splitYear`, `isCenturyYear_splitYear` — a term without its year, and that year
* `showQuery?_asks` — the query for an episode file
-/

namespace MediaShelf.Search

open Pattern (IsCenturyYear Token)
open Regex (Node Trace)

variable {term name year : List Char} {c : Char}

/-! ### Years behind names -/

/-- A year and the blanks in front of it. -/
def yearBehind : Node Token := .seq (.plus Text.isBlank) (.group .year Pattern.centuryYear)

theorem trailingYear_eq :
    trailingYear = .seq (.group .title (.plus (· != '\n') true)) yearBehind := rfl

/-- What stands behind a name that ends with a year. -/
theorem reads_yearBehind {before : Option Char} {after : List Char} {trace : Trace Token}
    (h : yearBehind.Reads before after trace) :
    ∃ blanks year, (∀ c ∈ blanks, Text.isBlank c) ∧ IsCenturyYear year ∧
      Trace.group? .year trace = some year ∧ Trace.text trace = blanks ++ year := by
  obtain ⟨_, _, hblanks, ⟨_, hyear, rfl⟩, rfl⟩ := h
  obtain ⟨blanks, -, hblank, rfl⟩ := Node.reads_plus.mp hblanks
  obtain ⟨year, hcentury, rfl⟩ := Pattern.isCenturyYear_of_reads hyear
  refine ⟨blanks, year, hblank, hcentury, ?_, by simp [Trace.text]⟩
  have hgroup : Trace.group? Token.year (.enter .year :: (year.map .char ++ [.leave .year])) =
      some year := by
    simpa using Trace.group?_group year []
  rw [Trace.group?_chars, hgroup]

/-- One blank more may stand in front of a year. -/
theorem reads_yearBehind_cons {before earlier : Option Char} {after : List Char}
    {trace : Trace Token} (hc : Text.isBlank c) (h : yearBehind.Reads before after trace) :
    yearBehind.Reads earlier after (.char c :: trace) := by
  obtain ⟨_, back, hblanks, hyear, rfl⟩ := h
  obtain ⟨blanks, hne, hblank, rfl⟩ := Node.reads_plus.mp hblanks
  refine ⟨(c :: blanks).map .char, back, Node.reads_plus.mpr ⟨c :: blanks, by simp, ?_, rfl⟩, ?_,
    rfl⟩
  · intro d hd
    rcases List.mem_cons.mp hd with rfl | hd
    · exact hc
    · exact hblank d hd
  · -- the year stands behind the same blank as before
    obtain ⟨front, last, rfl⟩ := (List.eq_nil_or_concat blanks).resolve_left hne
    rw [Trace.text_chars] at hyear ⊢
    simpa [List.getLast?_cons] using hyear

/-- The name and the year of a term that ends with a year. No shorter name could stand in front of
the year and its blanks. -/
theorem splitTrailingYear_of_matchWhole? (h : (trailingYear.matchWhole? term).isSome) :
    ∃ name blanks year, splitTrailingYear term = (name, some year) ∧ IsCenturyYear year ∧
      (∀ c ∈ blanks, Text.isBlank c) ∧ term = name ++ (blanks ++ year) ∧ name ≠ [] ∧
      ∀ c front, name = front ++ [c] → front ≠ [] → Text.isBlank c = false := by
  obtain ⟨trace, hmatch⟩ := Option.isSome_iff_exists.mp h
  unfold splitTrailingYear
  rw [hmatch]
  rw [trailingYear_eq] at hmatch
  obtain ⟨name, back, rfl, hne, rfl, hback, hshortest⟩ := Node.shortest_of_matchWhole?_plus hmatch
  obtain ⟨blanks, year, hblank, hcentury, hyear, htext⟩ := reads_yearBehind hback
  refine ⟨name, blanks, year, ?_, hcentury, hblank, by rw [htext], hne, ?_⟩
  · dsimp only
    rw [Trace.group?_group name back]
    dsimp only
    rw [Trace.group?_other (by decide), hyear]
  · intro c front hname hfront
    -- a blank at the end of the name would be one in front of the year
    by_contra hend
    subst hname
    have hread : yearBehind.Reads front.getLast? [] (.char c :: back) :=
      reads_yearBehind_cons (by simpa using hend) hback
    have hlength := hshortest front (.char c :: back) hfront (by simp [Trace.text]) hread
    rw [List.length_append, List.length_singleton] at hlength
    omega

/-- What `splitTrailingYear` gives: the term as it is, or its name and its year. -/
theorem splitTrailingYear_cases (term : List Char) :
    splitTrailingYear term = (term, none) ∨ ∃ name blanks year,
      splitTrailingYear term = (name, some year) ∧ IsCenturyYear year ∧
        (∀ c ∈ blanks, Text.isBlank c) ∧ term = name ++ (blanks ++ year) ∧ name ≠ [] ∧
        ∀ c front, name = front ++ [c] → front ≠ [] → Text.isBlank c = false := by
  cases hmatch : trailingYear.matchWhole? term with
  | none =>
    left
    rw [splitTrailingYear, hmatch]
  | some trace =>
    right
    exact splitTrailingYear_of_matchWhole? (by rw [hmatch, Option.isSome_some])

/-- A term stays one when the year at its end is taken off. -/
theorem isTerm_splitTrailingYear (h : IsTerm term) : IsTerm (splitTrailingYear term).1 := by
  rcases splitTrailingYear_cases term with hself |
    ⟨name, blanks, year, hsplit, -, -, rfl, hne, hlast⟩
  · rwa [hself]
  · rw [hsplit]
    have hhead : ∀ c ∈ name.head?, Text.isBlank c = false := by
      intro c hc
      apply h.isBlank_head?
      rwa [List.head?_append_of_ne_nil name hne]
    apply isTerm_of_isClean _ hne hhead
    · intro c hc
      obtain ⟨front, rfl⟩ := List.getLast?_eq_some_iff.mp hc
      -- a name of one character starts with it, and any other name could be shorter
      by_cases hfront : front = []
      · subst hfront
        exact hhead c rfl
      · exact hlast c front rfl hfront
    · exact fun c hc => h.isClean (List.mem_append_left _ hc)

example : splitTrailingYear "V  2009".toList = (['V'], some "2009".toList) := by decide

/-- The year of a term is one of the last two centuries, and stands in the term. -/
theorem isCenturyYear_splitYear (h : (splitYear term).2 = some year) :
    IsCenturyYear year ∧ ∀ c ∈ year, c ∈ term := by
  unfold splitYear at h
  dsimp only at h
  -- a year in brackets goes before one at the end
  split at h
  · exact Pattern.isCenturyYear_stripDecorations h
  · rcases splitTrailingYear_cases term with
      hself | ⟨name, blanks, behind, hsplit, hyear, -, rfl, -⟩
    · rw [hself] at h
      cases h
    · rw [hsplit] at h
      obtain rfl := Option.some.inj h
      exact ⟨hyear, fun c hc => by simp [hc]⟩

/-- A term stays one when its year is taken off. -/
theorem isTerm_splitYear (h : IsTerm term) : IsTerm (splitYear term).1 := by
  unfold splitYear
  dsimp only
  split
  · -- the brackets leave a space, and more blanks than one are collapsed
    rename_i hbare
    have hne : Text.collapseBlanks (Pattern.stripDecorations term).title ≠ [] := by
      rw [Bool.and_eq_true] at hbare
      simpa using hbare.2
    refine ⟨hne, Text.normalizeChars_collapseBlanks fun c hc => ?_⟩
    rcases Pattern.mem_title_stripDecorations hc with hc | rfl
    · exact h.isClean hc
    · rfl
  · exact isTerm_splitTrailingYear h

/-- The text is a year of the twentieth or twenty-first century in ASCII digits. -/
def IsPlainYear (text : List Char) : Prop :=
  ∃ a b : Char, a.isDigit ∧ b.isDigit ∧ (text = ['1', '9', a, b] ∨ text = ['2', '0', a, b])

theorem IsPlainYear.isCenturyYear (h : IsPlainYear year) : IsCenturyYear year := by
  obtain ⟨a, b, ha, hb, hyear⟩ := h
  refine ⟨[a, b], hyear, rfl, fun c hc => ?_⟩
  rcases List.mem_pair.mp hc with rfl | rfl
  · exact Pattern.isDecimalDigit_of_isDigit ha
  · exact Pattern.isDecimalDigit_of_isDigit hb

/-- In clean text the year of any script is one in ASCII digits. -/
theorem isPlainYear_of_isClean (h : IsCenturyYear year) (hclean : ∀ c ∈ year, Text.isClean c) :
    IsPlainYear year := by
  obtain ⟨tens, hyear, hlength, hdigits⟩ := h
  obtain ⟨a, b, rfl⟩ := List.length_eq_two.mp hlength
  have hascii : ∀ c ∈ [a, b], c.isDigit := by
    intro c hc
    apply Text.isDigit_of_isClean _ (hdigits c hc)
    apply hclean
    rcases hyear with rfl | rfl <;> exact List.mem_cons_of_mem _ (List.mem_cons_of_mem _ hc)
  exact ⟨a, b, hascii a (by simp), hascii b (by simp), hyear⟩

/-! ### Queries -/

theorem isTerm_termOfFile? {dir : MediaDirectory} {parsed : Pattern.ParsedEpisode}
    (h : termOfFile? dir parsed = some term) : IsTerm term := by
  obtain ⟨h, hne⟩ := Option.filter_eq_some_iff.mp h
  obtain ⟨raw, -, rfl⟩ := Option.map_eq_some_iff.mp h
  exact isTerm_cleanTerm (by simpa using hne)

theorem isTerm_termOfFolders? {dir : MediaDirectory} {relative : Path}
    (h : termOfFolders? dir relative = some term) : IsTerm term := by
  obtain ⟨folder, -, h⟩ := Option.bind_eq_some_iff.mp h
  obtain ⟨raw, -, rfl⟩ := List.mem_map.mp (List.mem_of_find?_eq_some h)
  exact isTerm_cleanTerm (by simpa using List.find?_some h)

/-- The query asks about the numbers that the name of the file was parsed to, for a name of a show
that is a term, and beside it for a year of the last two centuries or none. -/
structure ShowQuery.Asks (dir : MediaDirectory) (file : Path) (query : ShowQuery)
    (parsed : Pattern.ParsedEpisode) : Prop where
  parsed_eq : dir.pattern.parseEpisode (patternPath (dir.relative file)) = some parsed
  season : query.season = parsed.season
  episodes : query.episodes = parsed.episodes
  episodes_ne : parsed.episodes ≠ []
  term_ne : query.term ≠ ""
  term_normal : Text.normalize query.term = query.term
  year : ∀ year, query.year = some year → IsPlainYear year.toList

/-- The query for an episode file is as it should be. -/
theorem showQuery?_asks {dir : MediaDirectory} {file : Path} {query : ShowQuery}
    {parsed : Pattern.ParsedEpisode} (h : showQuery? dir file = some (query, parsed)) :
    query.Asks dir file parsed := by
  obtain ⟨numbers, hnumbers, h⟩ := Option.bind_eq_some_iff.mp h
  obtain ⟨term, hterm, h⟩ := Option.bind_eq_some_iff.mp h
  have hterm : IsTerm term := by
    rcases Option.or_eq_some_iff.mp hterm with hfile | ⟨-, hfolders⟩
    · exact isTerm_termOfFile? hfile
    · exact isTerm_termOfFolders? hfolders
  have hname := isTerm_splitYear hterm
  have hyear : ∀ digits, (splitYear term).2 = some digits →
      IsCenturyYear digits ∧ ∀ c ∈ digits, c ∈ term := fun _ => isCenturyYear_splitYear
  -- only these facts on the name and the year matter from here on
  generalize splitYear term = split at h hname hyear
  obtain ⟨name, year⟩ := split
  obtain ⟨rfl, rfl⟩ := Prod.mk.inj (Option.some.inj h)
  refine ⟨hnumbers, rfl, rfl, Pattern.episodes_ne_nil_of_parseEpisode hnumbers, hname.toString_ne,
    hname.normalize_eq, ?_⟩
  intro text htext
  obtain ⟨digits, hdigits, rfl⟩ := Option.map_eq_some_iff.mp htext
  obtain ⟨hcentury, hmem⟩ := hyear digits hdigits
  rw [String.toList_ofList]
  exact isPlainYear_of_isClean hcentury fun c hc => hterm.isClean (hmem c hc)

end MediaShelf.Search
