import MediaShelf.Proofs.Pattern.DecorationPlace
import MediaShelf.Proofs.Search.Show
import MediaShelf.Proofs.Text.Separators
import MediaShelf.Proofs.Text.Words

/-!
# The two spellings of a show's year

A year may stand behind the name of a show as it is or in brackets. As it is, it is the end of the
text that is looked at, whatever the name holds. In brackets it is a decoration, and with it a part
number is taken off the name, too: the name of a show is kept only if it holds none.

## Main results

* `splitTrailingYear_behind` — a year at the end is split from any name
* `splitYear_plain`, `splitYear_bracketed` — each of the two spellings
* `splitYear_spellings` — what becomes of both spellings
-/

namespace MediaShelf.Search

open Pattern (IsCenturyYear HoldsBracketedYear HoldsPart Token stripYear stripPart)
open Regex (Node Trace)

variable {name year : List Char} {c : Char}

/-- Without a line break a name with a blank and a year behind it is matched. -/
theorem isSome_matchWhole?_trailingYear (hne : name ≠ []) (hline : '\n' ∉ name)
    (hyear : IsCenturyYear year) : (trailingYear.matchWhole? (name ++ ' ' :: year)).isSome := by
  have hreads : trailingYear.Reads none [] (.enter .title :: (name.map .char ++ [.leave .title]) ++
      ([' '].map .char ++ Pattern.groupTrace .year year)) := by
    refine ⟨_, _, ⟨_, Node.reads_plus.mpr ⟨name, hne, fun c hc => ?_, rfl⟩, rfl⟩, ⟨_, _,
      Node.reads_plus.mpr ⟨[' '], by simp, by simp [Text.isBlank], rfl⟩,
      ⟨_, hyear.reads, rfl⟩, rfl⟩,
      rfl⟩
    exact bne_iff_ne.mpr fun hcontra => hline (hcontra ▸ hc)
  have hmatch := Node.isSome_matchWhole? hreads
  rwa [Trace.text_append, Trace.text_group, Trace.text_chars, Trace.text_append, Trace.text_chars,
    Pattern.text_groupTrace] at hmatch

/-- A year at the end is split from a term, however the term ends. -/
theorem splitTrailingYear_behind (hname : IsTerm name) (hyear : IsCenturyYear year) :
    splitTrailingYear (name ++ ' ' :: year) = (name, some year) := by
  have hline : '\n' ∉ name := fun hmem => absurd (hname.isClean hmem) (by decide)
  obtain ⟨front, blanks, digits, hsplit, hdigits, hblank, htext, hne, hlast⟩ :=
    splitTrailingYear_of_matchWhole? (isSome_matchWhole?_trailingYear hname.ne_nil hline hyear)
  rw [hsplit]
  -- all years are of one length, and the blanks in front of them do not belong to the name
  have hsame : (name ++ [' ']) ++ year = (front ++ blanks) ++ digits := by
    simpa using htext
  obtain ⟨hfront, rfl⟩ := List.append_inj' hsame (hyear.accepts.1.trans hdigits.accepts.1.symm)
  have hend : ∀ c ∈ front.reverse.head?, Text.isBlank c = false := by
    intro c hc
    rw [List.head?_reverse] at hc
    obtain ⟨lead, rfl⟩ := List.getLast?_eq_some_iff.mp hc
    by_cases hlead : lead = []
    · -- a name of one character starts with what the term starts with
      subst hlead
      have hhead := congrArg List.head? hfront
      rw [List.head?_append_of_ne_nil name hname.ne_nil] at hhead
      exact hname.isBlank_head? (hhead.trans rfl)
    · exact hlast c lead rfl hlead
  have hreverse : [' '] ++ name.reverse = blanks.reverse ++ front.reverse := by
    simpa using congrArg List.reverse hfront
  obtain ⟨-, hnames⟩ := Text.run_unique (p := Text.isBlank) (by simp [Text.isBlank])
    (fun c hc => hblank c (List.mem_reverse.mp hc))
    (fun c hc => hname.isBlank_getLast? (by rwa [List.head?_reverse] at hc)) hend hreverse
  rw [List.reverse_inj.mp hnames]

/-- A text that ends in a bracket ends with no year. -/
theorem splitTrailingYear_bracketed (text : List Char) :
    splitTrailingYear (text ++ [')']) = (text ++ [')'], none) := by
  rcases splitTrailingYear_cases (text ++ [')']) with hself | ⟨front, blanks, digits, -, hdigits, -,
    htext, -⟩
  · exact hself
  · exfalso
    have hne : digits ≠ [] := List.ne_nil_of_length_pos (by rw [hdigits.accepts.1]; decide)
    have hlast := congrArg List.getLast? htext
    rw [← List.append_assoc, List.getLast?_append_of_ne_nil _ hne, List.getLast?_concat] at hlast
    exact absurd (hdigits.isDecimalDigit ')' (List.mem_of_getLast? hlast.symm)) (by decide)

/-- A name that cleaning leaves alone is a term with single spaces between its words. -/
theorem isTerm_of_cleanTerm (hne : name ≠ []) (hclean : cleanTerm [] name = name) :
    IsTerm name ∧ Text.collapseBlanks name = name := by
  have hterm : IsTerm name := by
    rw [← hclean]
    exact isTerm_cleanTerm (by rwa [hclean])
  refine ⟨hterm, Text.collapseBlanks_of_trim_cleanSeparators ?_⟩
  rw [← Text.normalizeChars_of_isClean fun c hc => ?_]
  · exact hclean
  · rcases Text.mem_cleanSeparators hc with hc | rfl
    · exact hterm.isClean hc
    · rfl

/-- In clean text the brackets of a year are parentheses and its digits are ASCII digits. -/
theorem not_holdsBracketedYear (hclean : ∀ c ∈ name, Text.isClean c)
    (hundated : ∀ digits, IsPlainYear digits → ¬ '(' :: (digits ++ [')']) <:+: name) :
    ¬HoldsBracketedYear name := by
  intro hholds
  obtain ⟨digits, hcentury, hdigits, hmark⟩ := hholds.exists_infix hclean
  exact hundated digits (isPlainYear_of_isClean hcentury hdigits) hmark

/-- A part number that is taken off clean text takes more than blanks along. -/
theorem length_solid_stripPart {text : List Char} (hclean : ∀ c ∈ text, Text.isClean c)
    (h : HoldsPart text) : ((stripPart text).1.filter (! Text.isBlank ·)).length <
      (text.filter (! Text.isBlank ·)).length := by
  obtain ⟨found, hfind⟩ := Option.isSome_iff_exists.mp (Node.isSome_find?_iff.mpr h)
  obtain ⟨number, n, hgroup, hnumber, hstrip⟩ := Pattern.stripPart_of_find? hclean hfind
  obtain ⟨htext, -⟩ := Node.matchesAt_of_find? hfind
  obtain ⟨d, digits, rfl⟩ := List.exists_cons_of_ne_nil hnumber.digits.1
  have hd : d ∈ (Trace.text found.trace).filter (! Text.isBlank ·) := by
    refine List.mem_filter.mpr ⟨Trace.mem_text_of_group? hgroup List.mem_cons_self, ?_⟩
    rw [Pattern.isBlank_of_isDecimalDigit (Pattern.isDecimalDigit_of_isDigit
      (hnumber.digits.2 d List.mem_cons_self)), Bool.not_false]
  have hpos := List.length_pos_of_mem hd
  rw [hstrip, htext, List.filter_append, List.filter_cons_of_neg (by decide), List.filter_append,
    List.filter_append, List.length_append, List.length_append, List.length_append]
  omega

section Spellings

variable (hterm : IsTerm name) (hundecorated : ¬HoldsBracketedYear name) (hyear : IsPlainYear year)
include hterm hundecorated

/-- Nothing but a part number can be taken off such a name. -/
theorem part_stripDecorations_eq_none_iff :
    (Pattern.stripDecorations name).part = none ↔ ¬HoldsPart name := by
  rw [← Pattern.part_stripPart_eq_none_iff fun c => hterm.isClean, Pattern.stripDecorations,
    Pattern.stripYear_eq_self hundecorated]

include hyear

/-- A year as it is stands behind a name of any kind. -/
theorem splitYear_plain : splitYear (name ++ ' ' :: year) = (name, some year) := by
  -- nothing is taken off, since a year without brackets is no decoration
  have hdigits : ¬HoldsBracketedYear year :=
    Pattern.not_holdsBracketedYear_of_free
      (fun hmem => absurd (hyear.isCenturyYear.isDecimalDigit _ hmem) (by decide))
      (fun hmem => absurd (hyear.isCenturyYear.isDecimalDigit _ hmem) (by decide))
  have hnone : (Pattern.stripDecorations (name ++ ' ' :: year)).year = none := by
    rw [Pattern.stripDecorations, Pattern.stripYear_eq_self fun hholds =>
      (Pattern.holdsBracketedYear_append_iff.mp hholds).elim hundecorated hdigits]
  rw [splitYear]
  simp [hnone, splitTrailingYear_behind hterm hyear.isCenturyYear]

/-- A year in brackets leaves a name as it is if no part number is taken off with it. -/
theorem splitYear_bracketed (hcollapse : Text.collapseBlanks name = name) :
    splitYear (name ++ ' ' :: '(' :: (year ++ [')'])) = (name, some year) ↔ ¬HoldsPart name := by
  have hstrip : stripYear (name ++ ' ' :: '(' :: (year ++ [')'])) =
      (name ++ [' ', ' '], some year) :=
    Pattern.stripYear_behind hundecorated hyear.isCenturyYear []
  have hspaced : ∀ c ∈ name ++ [' ', ' '], Text.isClean c := by
    intro c hc
    rcases List.mem_append.mp hc with hc | hc
    · exact hterm.isClean hc
    · obtain rfl : c = ' ' := by simpa using hc
      rfl
  have hholds : HoldsPart (name ++ [' ', ' ']) ↔ HoldsPart name := by
    have hspaces : ¬HoldsPart [' ', ' '] := Pattern.not_holdsPart_of_letters (by simp; decide)
    have hend : [' '].dropWhile Pattern.isPartGap = [] := rfl
    rw [Pattern.holdsPart_append_iff (by simp [hend]), or_iff_left hspaces]
  have hwords : Text.collapseBlanks (name ++ [' ', ' ']) = name := by
    have hsplit := Text.words_append_cons (c := ' ') rfl name [' ']
    have hnone : Text.words [' '] = [] := rfl
    rw [Text.collapseBlanks, hsplit, hnone, List.append_nil]
    exact hcollapse
  rw [← hholds]
  constructor
  · -- with a part number less than the name is left, or nothing and then there is no year
    intro hsplit hpart
    have hshort := length_solid_stripPart hspaced hpart
    rw [splitYear, Pattern.stripDecorations, hstrip] at hsplit
    by_cases hnil : Text.collapseBlanks (stripPart (name ++ [' ', ' '])).1 = []
    · have hself := splitTrailingYear_bracketed (name ++ ' ' :: '(' :: year)
      simp [hnil] at hsplit hself
      simp [hself] at hsplit
    · simp only [Option.isSome_some, Bool.true_and, List.isEmpty_eq_false_iff.mpr hnil,
        Bool.not_false, if_true, Prod.mk.injEq, and_true] at hsplit
      have hsolid (text : List Char) := Text.filter_collapseBlanks
        (p := (! Text.isBlank ·)) (fun c hc => by simp [hc]) text
      rw [← hsolid, ← hsolid (name ++ [' ', ' ']), hsplit, hwords] at hshort
      exact Nat.lt_irrefl _ hshort
  · intro hnone
    have hbare := Pattern.stripPart_eq_self ((Pattern.part_stripPart_eq_none_iff hspaced).mpr hnone)
    rw [splitYear, Pattern.stripDecorations, hstrip]
    simp [hbare, hwords, hterm.ne_nil]

end Spellings

/-- The two spellings of a show's year. Behind a name without a bracketed year, that cleaning leaves
alone, a year is split from the name if it stands there as it is, and if it stands in brackets and
the name holds no part number. -/
theorem splitYear_spellings (hne : name ≠ []) (hclean : cleanTerm [] name = name)
    (hundated : ∀ digits, IsPlainYear digits → ¬ '(' :: (digits ++ [')']) <:+: name)
    (hyear : IsPlainYear year) :
    splitYear (name ++ ' ' :: year) = (name, some year) ∧
      (splitYear (name ++ ' ' :: '(' :: (year ++ [')'])) = (name, some year) ↔
        (Pattern.stripDecorations name).part = none) := by
  obtain ⟨hterm, hcollapse⟩ := isTerm_of_cleanTerm hne hclean
  have hundecorated := not_holdsBracketedYear (fun c => hterm.isClean) hundated
  rw [part_stripDecorations_eq_none_iff hterm hundecorated]
  exact ⟨splitYear_plain hterm hundecorated hyear,
    splitYear_bracketed hterm hundecorated hyear hcollapse⟩

/-- A name with a number, a year and a word for parts of its own. -/
theorem splitYear_spellings_misleading :
    splitYear "1984 Part of 24 2009".toList = ("1984 Part of 24".toList, some "2009".toList) ∧
      splitYear "1984 Part of 24 (2009)".toList =
        ("1984 Part of 24".toList, some "2009".toList) := by
  have hundated : ∀ digits, IsPlainYear digits →
      ¬ '(' :: (digits ++ [')']) <:+: "1984 Part of 24".toList :=
    fun _ _ hmark => absurd (hmark.subset List.mem_cons_self) (by decide)
  have hyear : IsPlainYear "2009".toList := ⟨'0', '9', rfl, rfl, .inr rfl⟩
  obtain ⟨hplain, hbracketed⟩ :=
    splitYear_spellings (by decide) (by decide +kernel) hundated hyear
  exact ⟨hplain, hbracketed.mpr (by decide +kernel)⟩

/-- With brackets a part number is taken off the name together with the year. -/
theorem splitYear_spellings_part :
    cleanTerm [] "Show Part 2".toList = "Show Part 2".toList ∧
      (∀ digits, IsPlainYear digits → ¬ '(' :: (digits ++ [')']) <:+: "Show Part 2".toList) ∧
      IsPlainYear "2009".toList ∧
      splitYear "Show Part 2 2009".toList = ("Show Part 2".toList, some "2009".toList) ∧
      splitYear "Show Part 2 (2009)".toList = ("Show".toList, some "2009".toList) := by
  refine ⟨by decide +kernel, fun _ _ hmark => ?_, ⟨'0', '9', rfl, rfl, .inr rfl⟩, by decide +kernel,
    by decide +kernel⟩
  exact absurd (hmark.subset List.mem_cons_self) (by decide)

end MediaShelf.Search
