import MediaShelf.Proofs.Pattern.DigitRun
import MediaShelf.Proofs.Pattern.Marker
import MediaShelf.Proofs.Regex.Find
import MediaShelf.Proofs.Text.Separators

/-!
# Season and episode with an X between them

A season such as that of `4x06` has to stand where no number ends. The expression makes sure of it
with a character in front of the season that is no digit, and so the match begins one character
early. The term is what stands in front of the match: that character is missing, whether it is a
separator or the last letter of the show.

## Main definitions

* `CrossMark` — a season and an episode with an X, and the text around them
* `CrossMark.IsIn`, `CrossMark.IsFirstIn` — such a mark in a name, and the first of them

## Main results

* `hit?_crossSeparated` — the first mark is found, and the hit begins one character early
* `recognise?_crossSeparated` — the letters in front of the season are those of the term, except for
  one right in front of it
-/

namespace MediaShelf.Pattern

open Regex (Node Trace)
open Text (sameLetter AsciiDigits Numeral)

/-- A season and an episode with an X between them, and what stands around them. -/
structure CrossMark where
  before : List Char
  season : List Char
  x : Char
  episode : List Char
  rest : List Char

namespace CrossMark

variable {mark other : CrossMark} {name : List Char}

/-- The mark stands in the name, and neither of its numbers goes on beyond it. -/
structure IsIn (name : List Char) (mark : CrossMark) : Prop where
  text : mark.before ++ (mark.season ++ mark.x :: (mark.episode ++ mark.rest)) = name
  season : AsciiDigits mark.season
  seasonShort : mark.season.length ≤ 2
  x : sameLetter 'x' mark.x
  episode : AsciiDigits mark.episode
  episodeShort : mark.episode.length ≤ 3
  notBefore : ∀ c ∈ mark.before.getLast?, c.isDigit = false
  notBehind : ∀ c ∈ mark.rest.head?, c.isDigit = false

/-- It is the first one in the name. -/
def IsFirstIn (name : List Char) (mark : CrossMark) : Prop :=
  mark.IsIn name ∧ ∀ other : CrossMark, other.IsIn name → mark.before.length ≤ other.before.length

/-- A name that a mark begins starts with a digit. -/
theorem IsIn.isDigit_head? (h : mark.IsIn name) (hbefore : mark.before = []) :
    ∀ c ∈ name.head?, c.isDigit := by
  rw [← h.text, hbefore, List.nil_append]
  exact isDigit_head?_append h.season _

end CrossMark

/-! ### The expression -/

/-- What has to stand in front of the season: nothing, or a character that is no digit. -/
def crossGuard : Node Token := .alt (.look Regex.atStart) (.one (! ·.isDigit))

/-- The text is what may stand in front of the season, behind the character `before`. -/
def IsGuard (before : Option Char) (text : List Char) : Prop :=
  Regex.StartsOr (! ·.isDigit) before text

section Expression

variable {before : Option Char} {after name : List Char} {trace : Trace Token} {mark : CrossMark}
  {hit : Hit}

theorem reads_guardedCross : (Node.seq crossGuard crossNode).Reads before after trace ↔
    ∃ guard season x episode edge, IsGuard before guard ∧ AsciiDigits season ∧ season.length ≤ 2 ∧
      sameLetter 'x' x ∧ AsciiDigits episode ∧ episode.length ≤ 3 ∧ IsEdge edge after ∧
      trace = numbersTrace guard season [x] episode edge := by
  constructor
  · rintro ⟨_, _, hreads, hcross, rfl⟩
    obtain ⟨season, x, episode, edge, hseason, hshort, hx, hepisode, hshort', hedge, rfl⟩ :=
      reads_cross.mp hcross
    obtain ⟨guard, hguard, rfl⟩ := Node.reads_atStart_or.mp hreads
    exact ⟨guard, season, x, episode, edge, hguard, hseason, hshort, hx, hepisode, hshort', hedge,
      by simp [numbersTrace]⟩
  · rintro ⟨guard, season, x, episode, edge, hguard, hseason, hshort, hx, hepisode, hshort', hedge,
      rfl⟩
    exact ⟨_, _, Node.reads_atStart_or.mpr ⟨guard, hguard, rfl⟩,
      reads_cross.mpr
        ⟨season, x, episode, edge, hseason, hshort, hx, hepisode, hshort', hedge, rfl⟩,
      by simp [numbersTrace]⟩

/-- A guard stands at the end of the text in front of the season. -/
theorem exists_isGuard (h : ∀ c ∈ mark.before.getLast?, c.isDigit = false) :
    ∃ guard, IsGuard mark.before.dropLast.getLast? guard ∧
      mark.before = mark.before.dropLast ++ guard := by
  rcases List.eq_nil_or_concat mark.before with hnil | ⟨front, c, hconcat⟩
  · exact ⟨[], .inl ⟨by rw [hnil]; rfl, rfl⟩, by rw [hnil]; rfl⟩
  · have hc := h c (by rw [hconcat]; simp)
    refine ⟨[c], .inr ⟨c, by simp [hc], rfl⟩, ?_⟩
    rw [hconcat]
    simp

/-- Where a mark stands the expression matches, from the character in front of it. -/
theorem CrossMark.IsIn.isSome_preferred? (h : mark.IsIn name) :
    ∃ text, name = mark.before.dropLast ++ text ∧
      ((Node.seq crossGuard crossNode).preferred? mark.before.dropLast text).isSome := by
  obtain ⟨guard, hguard, hbefore⟩ := exists_isGuard h.notBefore
  obtain ⟨edge, after, hrest, hedge⟩ := exists_isEdge h.notBehind
  have hreads := reads_guardedCross.mpr ⟨guard, mark.season, mark.x, mark.episode, edge, hguard,
    h.season, h.seasonShort, h.x, h.episode, h.episodeShort, hedge, rfl⟩
  refine ⟨_, ?_, Node.isSome_preferred? hreads⟩
  have htext := h.text
  rw [hbefore, hrest] at htext
  rw [← htext]
  simp

/-- A match is a mark, with one character in front of it or none. -/
theorem exists_isIn_of_find? {found : Regex.Found Token}
    (h : (Node.seq crossGuard crossNode).find? name = some found) :
    ∃ (mark : CrossMark) (guard edge : List Char), mark.IsIn name ∧
      IsGuard found.before.getLast? guard ∧ mark.before = found.before ++ guard ∧
      mark.rest = edge ++ found.rest ∧
      found.trace = numbersTrace guard mark.season [mark.x] mark.episode edge := by
  obtain ⟨htext, hreads⟩ := Node.find?_eq_some h
  obtain ⟨guard, season, x, episode, edge, hguard, hseason, hshort, hx, hepisode, hshort', hedge,
    htrace⟩ := reads_guardedCross.mp hreads
  refine ⟨⟨found.before ++ guard, season, x, episode, edge ++ found.rest⟩, guard, edge,
    ⟨?_, hseason, hshort, hx, hepisode, hshort', ?_, hedge.isDigit_head?⟩, hguard, rfl, rfl, htrace⟩
  · rw [htext, htrace]
    simp
  · rcases hguard with ⟨hstart, rfl⟩ | ⟨c, hc, rfl⟩
    · simp [hstart]
    · simpa using hc

/-- The first mark of the name is found. Its numbers are read, and what is in front of the hit is
the text in front of the season without its last character. -/
theorem hit?_crossSeparated (h : Heuristic.crossSeparated.hit? name = some hit) :
    ∃ mark : CrossMark, mark.IsFirstIn name ∧ Numeral mark.season hit.season ∧
      Numeral mark.episode hit.episode ∧ hit.before = mark.before.dropLast ∧
      hit.rest = mark.rest := by
  obtain ⟨found, hfind, hhit⟩ := Option.bind_eq_some_iff.mp h
  obtain ⟨mark, guard, edge, hmark, hguard, hbefore, hrest, htrace⟩ := exists_isIn_of_find? hfind
  have hdrop : mark.before.dropLast = found.before := by
    rcases hguard with ⟨hstart, rfl⟩ | ⟨c, -, rfl⟩
    · rw [hbefore, List.getLast?_eq_none_iff.mp hstart]
      rfl
    · rw [hbefore, List.dropLast_concat]
  have hseason :=
    Text.numeral_of_length_le hmark.season (Nat.le_trans hmark.seasonShort (by decide))
  have hepisode :=
    Text.numeral_of_length_le hmark.episode (Nat.le_trans hmark.episodeShort (by decide))
  have hread : Hit.ofFound? ⟨found.before,
      numbersTrace guard mark.season [mark.x] mark.episode edge, found.rest⟩ =
        some ⟨_, _, found.before, edge ++ found.rest⟩ := ofFound?_numbersTrace hseason hepisode
  rw [← htrace, hhit] at hread
  obtain rfl := Option.some.inj hread
  refine ⟨mark, ⟨hmark, fun other hother => ?_⟩, hseason, hepisode, hdrop.symm, hrest.symm⟩
  -- a search stops at the first match, and a mark further in front would be matched earlier
  obtain ⟨text, htext, hsome⟩ := hother.isSome_preferred?
  obtain ⟨first, hfirst, hprefix⟩ := Node.find?_of_preferred? hsome
  rw [← htext] at hfirst
  obtain rfl : found = first := Option.some.inj (hfind.symm.trans hfirst)
  have hle := hprefix.length_le
  rw [← hdrop, List.length_dropLast, List.length_dropLast] at hle
  by_cases hother' : other.before = []
  · -- no guard stands in front of a digit at the start of the name
    have hstart := hother.isDigit_head? hother'
    rcases hguard with ⟨hstart', rfl⟩ | ⟨c, hc, rfl⟩
    · rw [hbefore, List.getLast?_eq_none_iff.mp hstart']
      simp
    · have hfront : found.before = [] := by
        rw [hother', List.dropLast_nil] at hprefix
        exact List.prefix_nil.mp hprefix
      have hdigit : c.isDigit := by
        apply hstart
        rw [← hmark.text, hbefore, hfront]
        rfl
      simp [hdigit] at hc
  · have hpos := List.length_pos_iff.mpr hother'
    omega

end Expression

/-! ### The term -/

variable {fileName text term : List Char} {found : Recognised}

/-- A term is kept unless it is empty. -/
theorem getD_term (term : List Char) :
    (if term.isEmpty then none else some term).getD [] = term := by
  cases term <;> rfl

/-- A text that has the letters of another up to its last character has all of them if and only if
that character is no letter. -/
theorem letters_sublist_iff
    (h : term.filter Char.isAlpha = text.dropLast.filter Char.isAlpha) :
    (text.filter Char.isAlpha).Sublist term ↔ ∀ c ∈ text.getLast?, c.isAlpha = false := by
  obtain rfl | ⟨front, c, htext⟩ := List.eq_nil_or_concat text
  · simp
  rw [List.concat_eq_append] at htext
  subst htext
  rw [List.dropLast_concat] at h
  simp only [List.getLast?_append, List.getLast?_singleton, Option.some_or, Option.mem_some_iff,
    forall_eq']
  by_cases hc : c.isAlpha
  · -- there is one letter more in the text than in the term
    have hfilter : (front ++ [c]).filter Char.isAlpha = front.filter Char.isAlpha ++ [c] := by
      rw [List.filter_append, List.filter_cons_of_pos hc, List.filter_nil]
    rw [hfilter]
    refine iff_of_false (fun hsub => ?_) (by simp [hc])
    have hlength := (hsub.filter Char.isAlpha).length_le
    rw [h, ← hfilter, List.filter_filter] at hlength
    simp only [Bool.and_self] at hlength
    rw [hfilter, List.length_append, List.length_singleton] at hlength
    omega
  · have hfilter : (front ++ [c]).filter Char.isAlpha = front.filter Char.isAlpha := by
      rw [List.filter_append, List.filter_cons_of_neg hc, List.filter_nil, List.append_nil]
    rw [hfilter, ← h]
    exact iff_of_true List.filter_sublist (by simpa using hc)

/-- What is recognised by an X is read of the first season and episode with an X between them. The
letters of the term are the letters in front of the season, in their order, up to the character
right in front of it. So all of them occur in the term if and only if that character is no
letter. -/
theorem recognise?_crossSeparated (hfound : recognise? fileName = some found)
    (hcross : found.heuristic = .crossSeparated) :
    ∃ mark : CrossMark, mark.IsFirstIn (Path.stem fileName) ∧ Numeral mark.season found.season ∧
      (∃ episode ∈ found.episodes.head?, Numeral mark.episode episode) ∧
      (found.term.getD []).filter Char.isAlpha = mark.before.dropLast.filter Char.isAlpha ∧
      ((mark.before.filter Char.isAlpha).Sublist (found.term.getD []) ↔
        ∀ c ∈ mark.before.getLast?, c.isAlpha = false) := by
  have hrecognise := recognise?_heuristic hfound
  rw [hcross] at hrecognise
  obtain ⟨hit, hhit, rfl⟩ := Option.map_eq_some_iff.mp hrecognise
  obtain ⟨mark, hfirst, hseason, hepisode, hbefore, -⟩ := hit?_crossSeparated hhit
  have hletters : ((if (Text.cleanSeparators hit.before).isEmpty then none
      else some (Text.cleanSeparators hit.before)).getD []).filter Char.isAlpha =
        mark.before.dropLast.filter Char.isAlpha := by
    rw [getD_term, Text.letters_cleanSeparators, hbefore]
  refine ⟨mark, hfirst, hseason, ⟨hit.episode, rfl, hepisode⟩, hletters, ?_⟩
  rw [letters_sublist_iff hletters]

/-- Behind a space the season leaves the name of the show complete. Numbers of four digits are part
of it, and a second pair is one more episode. -/
theorem recognise?_crossSeparated_spaced :
    recognise? "The 4400 4x13.4x14.avi".toList =
        some ⟨.crossSeparated, 4, [13, 14], some "The 4400".toList⟩ ∧
      ∃ mark : CrossMark, mark.IsFirstIn "The 4400 4x13.4x14".toList ∧ Numeral mark.season 4 ∧
        Numeral mark.episode 13 ∧ mark.before.dropLast.filter Char.isAlpha = "The".toList := by
  have hstem : Path.stem "The 4400 4x13.4x14.avi".toList = "The 4400 4x13.4x14".toList := by
    decide +kernel
  have hfound : recognise? "The 4400 4x13.4x14.avi".toList =
      some ⟨.crossSeparated, 4, [13, 14], some "The 4400".toList⟩ := by decide +kernel
  obtain ⟨mark, hfirst, hseason, ⟨episode, hhead, hepisode⟩, hletters, -⟩ :=
    recognise?_crossSeparated hfound rfl
  rw [hstem] at hfirst
  obtain rfl := Option.some.inj hhead
  exact ⟨hfound, mark, hfirst, hseason, hepisode, hletters.symm⟩

/-- The last letter of a show is missing where the season follows at once. -/
theorem recognise?_crossSeparated_joined :
    ∃ mark : CrossMark, mark.IsIn (Path.stem "Show4x13.avi".toList) ∧
      recognise? "Show4x13.avi".toList = some ⟨.crossSeparated, 4, [13], some "Sho".toList⟩ ∧
      Numeral mark.season 4 ∧ Numeral mark.episode 13 ∧
      ¬(mark.before.filter Char.isAlpha).Sublist "Sho".toList := by
  have hin : CrossMark.IsIn (Path.stem "Show4x13.avi".toList)
      ⟨"Show".toList, "4".toList, 'x', "13".toList, []⟩ := by
    refine ⟨by decide +kernel, ⟨by decide, List.all_eq_true.mp (by decide)⟩, by decide, by decide,
      ⟨by decide, List.all_eq_true.mp (by decide)⟩, by decide, ?_, by simp⟩
    rintro _ ⟨⟩
    decide
  have hlost : ¬("Show".toList.filter Char.isAlpha).Sublist "Sho".toList := fun h =>
    absurd h.length_le (by decide)
  refine ⟨⟨"Show".toList, "4".toList, 'x', "13".toList, []⟩, hin, by decide +kernel, ?_, ?_, hlost⟩
  · exact Text.numeral_of_length_le hin.season (by decide)
  · exact Text.numeral_of_length_le hin.episode (by decide)

end MediaShelf.Pattern
