import MediaShelf.Proofs.Pattern.Decoration
import MediaShelf.Proofs.Text.CaseFold
import MediaShelf.Proofs.Text.Normalize
import MediaShelf.Proofs.Text.Numeral
import MediaShelf.Proofs.Text.Split

/-!
# Where decorations stand

What stands behind a title may be taken for a part of a decoration of the title, or make a
decoration of its own. A bracketed year holds no space, so it stands on one side of any space. The
number of a part may stand behind spaces, so behind the title there must be something else than a
number.

## Main definitions

* `HoldsBracketedYear` — a bracketed year stands somewhere in the text
* `HoldsPart` — a part number does
* `partTrace` — the trace of a part number with what stands around it

## Main results

* `stripYear_eq_self`, `stripYear_behind` — the year that is taken off a text
* `holdsPart_append_iff` — the part numbers of a text with more behind it
* `part_stripPart_eq_none_iff`, `stripPart_behind` — the part number that is taken off a text
-/

namespace MediaShelf.Pattern

open Regex (Node Trace)
open Text (sameLetter)

variable {before : Option Char} {after text behind year : List Char} {trace : Trace Token}

/-! ### Years -/

/-- A year of the last two centuries is matched. -/
theorem IsCenturyYear.reads (h : IsCenturyYear year) :
    centuryYear.Reads before after (year.map .char) := by
  obtain ⟨tens, hyear, hlength, hdigits⟩ := h
  have hback : ∀ {before}, (Node.times 2 (.one Text.isDecimalDigit) : Node Token).Reads before after
      (tens.map .char) := fun {_} => reads_times.mpr ⟨tens, ⟨hlength, hdigits⟩, rfl⟩
  rcases hyear with rfl | rfl
  · exact ⟨['1', '9'].map .char, _, .inl ⟨_, _, ⟨'1', by decide, rfl⟩, ⟨'9', by decide, rfl⟩, rfl⟩,
      hback, rfl⟩
  · exact ⟨['2', '0'].map .char, _, .inr ⟨_, _, ⟨'2', by decide, rfl⟩, ⟨'0', by decide, rfl⟩, rfl⟩,
      hback, rfl⟩

theorem reads_yearDecoration : yearDecoration.Reads before after trace ↔
    ∃ opening year closing, opening ∈ ['(', '['] ∧ IsCenturyYear year ∧ closing ∈ [')', ']'] ∧
      trace = .char opening :: (groupTrace .year year ++ [.char closing]) := by
  constructor
  · rintro ⟨_, _, ⟨opening, hopening, rfl⟩, ⟨_, _, ⟨_, hinner, rfl⟩, ⟨closing, hclosing, rfl⟩, rfl⟩,
      rfl⟩
    obtain ⟨year, hyear, rfl⟩ := isCenturyYear_of_reads hinner
    exact ⟨opening, year, closing, by simpa using hopening, hyear, by simpa using hclosing, rfl⟩
  · rintro ⟨opening, year, closing, hopening, hyear, hclosing, rfl⟩
    exact ⟨[.char opening], groupTrace .year year ++ [.char closing],
      ⟨opening, by simpa using hopening, rfl⟩,
      ⟨groupTrace .year year, [.char closing], ⟨_, hyear.reads, rfl⟩,
        ⟨closing, by simpa using hclosing, rfl⟩, rfl⟩, rfl⟩

/-- A year in round or square brackets stands in the text. -/
def HoldsBracketedYear (text : List Char) : Prop :=
  ∃ opening year closing, opening ∈ ['(', '['] ∧ IsCenturyYear year ∧ closing ∈ [')', ']'] ∧
    opening :: (year ++ [closing]) <:+: text

theorem IsCenturyYear.isDecimalDigit (h : IsCenturyYear year) : ∀ c ∈ year, Text.isDecimalDigit c :=
  h.accepts.2

/-- A bracketed year holds no space. -/
theorem space_not_mem_bracketedYear {opening closing : Char} (hopening : opening ∈ ['(', '['])
    (hyear : IsCenturyYear year) (hclosing : closing ∈ [')', ']']) :
    ' ' ∉ opening :: (year ++ [closing]) := by
  intro hmem
  rcases List.mem_cons.mp hmem with rfl | hmem
  · exact absurd hopening (by decide)
  · rcases List.mem_append.mp hmem with hmem | hmem
    · exact absurd (hyear.isDecimalDigit ' ' hmem) (by decide)
    · rw [← List.mem_singleton.mp hmem] at hclosing
      exact absurd hclosing (by decide)

/-- So a space leaves it on one of its sides. -/
theorem holdsBracketedYear_append_iff :
    HoldsBracketedYear (text ++ ' ' :: behind) ↔
      HoldsBracketedYear text ∨ HoldsBracketedYear behind := by
  constructor
  · rintro ⟨opening, year, closing, hopening, hyear, hclosing, hmark⟩
    rcases (Text.infix_append_cons_iff
      (space_not_mem_bracketedYear hopening hyear hclosing)).mp hmark with hmark | hmark
    · exact .inl ⟨opening, year, closing, hopening, hyear, hclosing, hmark⟩
    · exact .inr ⟨opening, year, closing, hopening, hyear, hclosing, hmark⟩
  · rintro (⟨opening, year, closing, hopening, hyear, hclosing, hmark⟩ |
      ⟨opening, year, closing, hopening, hyear, hclosing, hmark⟩)
    all_goals refine ⟨opening, year, closing, hopening, hyear, hclosing, ?_⟩
    · exact hmark.trans (List.prefix_append text (' ' :: behind)).isInfix
    · exact hmark.trans ((List.suffix_cons ' ' behind).trans
        (List.suffix_append text (' ' :: behind))).isInfix

/-- Text without brackets holds no bracketed year. -/
theorem not_holdsBracketedYear_of_free (hround : '(' ∉ text) (hsquare : '[' ∉ text) :
    ¬HoldsBracketedYear text := by
  rintro ⟨opening, year, closing, hopening, -, -, hmark⟩
  have hmem := hmark.subset List.mem_cons_self
  rcases List.mem_pair.mp hopening with rfl | rfl
  · exact hround hmem
  · exact hsquare hmem

/-- In clean text its brackets are parentheses and its digits are those of ASCII. -/
theorem HoldsBracketedYear.exists_infix (hclean : ∀ c ∈ text, Text.isClean c)
    (h : HoldsBracketedYear text) : ∃ year, IsCenturyYear year ∧ (∀ c ∈ year, Text.isClean c) ∧
      '(' :: (year ++ [')']) <:+: text := by
  obtain ⟨opening, year, closing, hopening, hyear, hclosing, hmark⟩ := h
  have hround {c round square : Char} (hsquare : Text.isClean square = false)
      (h : c ∈ [round, square]) (hc : c ∈ text) : c = round := by
    simp only [List.mem_cons, List.not_mem_nil, or_false] at h
    rcases h with rfl | rfl
    · rfl
    · rw [hclean c hc] at hsquare
      cases hsquare
  obtain rfl := hround (by decide) hopening (hmark.subset (by simp))
  obtain rfl := hround (by decide) hclosing (hmark.subset (by simp))
  exact ⟨year, hyear, fun c hc => hclean c (hmark.subset (by simp [hc])), hmark⟩

/-- Without a bracketed year a text stays as it is. -/
theorem stripYear_eq_self (h : ¬HoldsBracketedYear text) : stripYear text = (text, none) := by
  unfold stripYear
  cases hfind : yearDecoration.find? text with
  | none => rfl
  | some found =>
    obtain ⟨htext, hreads⟩ := Node.matchesAt_of_find? hfind
    obtain ⟨opening, year, closing, hopening, hyear, hclosing, hmark⟩ :=
      text_of_yearDecoration hreads
    rw [hmark] at htext
    refine absurd
      ⟨opening, year, closing, hopening, hyear, hclosing, found.before, found.rest, ?_⟩ h
    rw [htext, List.append_assoc]

/-- The first bracketed year is taken off, and a space is left in its place. -/
theorem stripYear_behind (h : ¬HoldsBracketedYear text) (hyear : IsCenturyYear year)
    (behind : List Char) :
    stripYear (text ++ ' ' :: '(' :: (year ++ ')' :: behind)) =
      (text ++ ' ' :: ' ' :: behind, some year) := by
  have hmatches : yearDecoration.MatchesAt (text ++ ' ' :: '(' :: (year ++ ')' :: behind))
      (text ++ [' ']) (.char '(' :: (groupTrace .year year ++ [.char ')'])) behind :=
    ⟨by simp [Trace.text],
      reads_yearDecoration.mpr ⟨'(', year, ')', by decide, hyear, by decide, rfl⟩⟩
  obtain ⟨trace, rest, hfind, htext, hreads⟩ := Node.find?_of_first hmatches
    fun earlier _ _ hearlier => by
    by_contra hlength
    rw [List.length_append, List.length_singleton, Nat.not_le, Nat.lt_succ_iff] at hlength
    -- an earlier one would end in front of the space
    obtain ⟨opening, digits, closing, hopening, hdigits, hclosing, hmark⟩ :=
      text_of_yearDecoration hearlier.reads
    have htext := hearlier.text_eq
    rw [hmark] at htext
    obtain ⟨more, rfl, -⟩ := Text.append_eq_of_not_mem
      (space_not_mem_bracketedYear hopening hdigits hclosing) hlength htext.symm
    exact h ⟨opening, digits, closing, hopening, hdigits, hclosing, earlier, more, by simp⟩
  obtain ⟨opening, digits, closing, -, hdigits, -, rfl⟩ := reads_yearDecoration.mp hreads
  have hback : '(' :: (year ++ ')' :: behind) = opening :: (digits ++ closing :: rest) := by
    simpa [Trace.text] using htext
  -- all years are of one length
  obtain ⟨rfl, hrest⟩ := List.append_inj (List.cons.inj hback).2
    (hyear.accepts.1.trans hdigits.accepts.1.symm)
  obtain ⟨-, rfl⟩ := List.cons.inj hrest
  unfold stripYear
  rw [hfind]
  simp [Regex.Found.group?, Trace.group?]

/-! ### Part numbers -/

/-- The words for parts. -/
def partWords : List (List Char) := [['p', 'a', 'r', 't'], ['p', 't'], ['c', 'd']]

/-- What may stand in front of the word. -/
def opensPart (c : Char) : Bool := Text.isBlank c || ['.', '-', '_', '(', '['].contains c

/-- What may stand between the word and the number. -/
def isPartGap (c : Char) : Bool := Text.isBlank c || c == '.'

/-- A part number between the character `before` and the text `after`: the word for parts and the
number, with what belongs to them. -/
structure ReadsPart (before : Option Char) (after lead word gap number close : List Char) :
    Prop where
  lead : Regex.StartsOr opensPart before lead
  word : ∃ plain ∈ partWords, List.Forall₂ (fun c d => sameLetter c d) plain word
  gap : ∀ c ∈ gap, isPartGap c
  digits : IsDigits number
  short : number.length ≤ 2
  close : (∃ c ∈ [')', ']'], close = [c]) ∨
    close = [] ∧ Regex.atWordEdge number.getLast? after.head?

/-- The trace of a part number. -/
def partTrace (lead word gap number close : List Char) : Trace Token :=
  lead.map .char ++ (word.map .char ++ (gap.map .char ++ (groupTrace .part number ++
    close.map .char)))

@[simp] theorem text_partTrace (lead word gap number close : List Char) :
    Trace.text (partTrace lead word gap number close) =
      lead ++ (word ++ (gap ++ (number ++ close))) := by
  simp [partTrace]

@[simp] theorem group?_partTrace (lead word gap number close : List Char) :
    Trace.group? .part (partTrace lead word gap number close) = some number := by
  simp [partTrace]

section Part

variable {lead word gap number close front : List Char} {c : Char}

/-- The word for parts, in any letter case. -/
theorem reads_partWord :
    (Node.alts (partWords.map .text) : Node Token).Reads before after trace ↔
      ∃ word, (∃ plain ∈ partWords, List.Forall₂ (fun c d => sameLetter c d) plain word) ∧
        trace = word.map .char := by
  simp only [partWords, List.map_cons, List.map_nil, Node.alts, Node.Reads, Node.reads_text,
    List.mem_cons, List.not_mem_nil, or_false, exists_eq_or_imp, exists_eq_left]
  constructor
  · rintro (⟨word, hword, rfl⟩ | ⟨word, hword, rfl⟩ | ⟨word, hword, rfl⟩)
    · exact ⟨word, .inl hword, rfl⟩
    · exact ⟨word, .inr (.inl hword), rfl⟩
    · exact ⟨word, .inr (.inr hword), rfl⟩
  · rintro ⟨word, hword | hword | hword, rfl⟩
    · exact .inl ⟨word, hword, rfl⟩
    · exact .inr (.inl ⟨word, hword, rfl⟩)
    · exact .inr (.inr ⟨word, hword, rfl⟩)

/-- A closing bracket or the end of a word. -/
theorem reads_partClose :
    (Node.alts [.one ([')', ']'].contains ·), .look Regex.atWordEdge] : Node Token).Reads before
      after trace ↔ ∃ close, ((∃ c ∈ [')', ']'], close = [c]) ∨
        close = [] ∧ Regex.atWordEdge before after.head?) ∧ trace = close.map .char := by
  constructor
  · rintro (⟨c, hc, rfl⟩ | ⟨hedge, rfl⟩)
    · exact ⟨[c], .inl ⟨c, by simpa using hc, rfl⟩, rfl⟩
    · exact ⟨[], .inr ⟨rfl, hedge⟩, rfl⟩
  · rintro ⟨_, ⟨c, hc, rfl⟩ | ⟨rfl, hedge⟩, rfl⟩
    · exact .inl ⟨c, by simpa using hc, rfl⟩
    · exact .inr ⟨hedge, rfl⟩

theorem partDecoration_eq : partDecoration =
    .seqs [.alt (.look Regex.atStart) (.one opensPart), .alts (partWords.map .text),
      .many false isPartGap, .group .part (.seq (.one Text.isDecimalDigit)
        (.upTo false 1 (.one Text.isDecimalDigit))),
      .alts [.one ([')', ']'].contains ·), .look Regex.atWordEdge]] := rfl

theorem reads_partDecoration : partDecoration.Reads before after trace ↔
    ∃ lead word gap number close, ReadsPart before after lead word gap number close ∧
      trace = partTrace lead word gap number close := by
  rw [partDecoration_eq]
  constructor
  · rintro ⟨_, _, hfirst, ⟨_, _, hspelt, ⟨_, _, ⟨gap, hgap, rfl⟩,
      ⟨_, _, ⟨_, hnumber, rfl⟩, hend, rfl⟩, rfl⟩, rfl⟩, rfl⟩
    obtain ⟨lead, hlead, rfl⟩ := Node.reads_atStart_or.mp hfirst
    obtain ⟨word, hword, rfl⟩ := reads_partWord.mp hspelt
    obtain ⟨number, hne, hshort, hdigits, rfl⟩ := Node.reads_one_upTo.mp hnumber
    obtain ⟨close, hclose, rfl⟩ := reads_partClose.mp hend
    rw [Trace.text_group, Trace.text_chars, List.getLast?_eq_some_getLast hne, Option.some_or,
      ← List.getLast?_eq_some_getLast hne] at hclose
    exact ⟨lead, word, gap, number, close,
      ⟨hlead, hword, hgap, ⟨hne, hdigits⟩, hshort, hclose⟩, rfl⟩
  · rintro ⟨lead, word, gap, number, close, h, rfl⟩
    refine ⟨_, _, Node.reads_atStart_or.mpr ⟨lead, h.lead, rfl⟩, ⟨_, _, reads_partWord.mpr
      ⟨word, h.word, rfl⟩, ⟨_, _, ⟨gap, h.gap, rfl⟩, ⟨groupTrace .part number, _, ⟨_, ?_, rfl⟩,
        reads_partClose.mpr ⟨close, ?_, rfl⟩, rfl⟩, rfl⟩, rfl⟩, rfl⟩
    · exact Node.reads_one_upTo.mpr ⟨number, h.digits.1, h.short, h.digits.2, rfl⟩
    · rw [text_groupTrace, List.getLast?_eq_some_getLast h.digits.1, Option.some_or,
        ← List.getLast?_eq_some_getLast h.digits.1]
      exact h.close

theorem isPartGap_space : isPartGap ' ' := rfl

theorem isPartGap_of_isDecimalDigit (h : Text.isDecimalDigit c) : isPartGap c = false := by
  rw [isPartGap, isBlank_of_isDecimalDigit h, Bool.false_or, beq_eq_false_iff_ne]
  rintro rfl
  exact absurd h (by decide)

namespace ReadsPart

variable (h : ReadsPart before after lead word gap number close)
include h

/-- The word has no spaces, and it starts with a P or a C. -/
theorem space_not_mem_word : ' ' ∉ word := by
  obtain ⟨plain, hplain, hword⟩ := h.word
  intro hmem
  obtain ⟨d, hd, hsame⟩ := Text.exists_sameLetter hword hmem
  have hall : partWords.flatten.all (! sameLetter · ' ') := by decide
  have hnot := List.all_eq_true.mp hall d (List.mem_flatten.mpr ⟨plain, hplain, hd⟩)
  simp [hsame] at hnot

theorem exists_first : ∃ first rest, word = first :: rest ∧
    (sameLetter 'p' first ∨ sameLetter 'c' first) := by
  obtain ⟨plain, hplain, hword⟩ := h.word
  simp only [partWords, List.mem_cons, List.not_mem_nil, or_false] at hplain
  rcases hplain with rfl | rfl | rfl <;> obtain _ | ⟨hfirst, -⟩ := hword
  · exact ⟨_, _, rfl, .inl hfirst⟩
  · exact ⟨_, _, rfl, .inl hfirst⟩
  · exact ⟨_, _, rfl, .inr hfirst⟩

theorem space_not_mem_number : ' ' ∉ number := fun hmem =>
  absurd (h.digits.2 ' ' hmem) (by decide)

theorem space_not_mem_close : ' ' ∉ close := by
  rcases h.close with ⟨c, hc, rfl⟩ | ⟨rfl, -⟩
  · intro hmem
    rw [← List.mem_singleton.mp hmem] at hc
    exact absurd hc (by decide)
  · simp

/-- No digit stands in front of the number. -/
theorem isDigit_before_number (hc : c ∈ (word ++ gap).getLast?) : c.isDigit = false := by
  obtain ⟨plain, hplain, hword⟩ := h.word
  rcases List.mem_append.mp (List.mem_of_getLast? hc) with hc | hc
  · obtain ⟨d, hd, hsame⟩ := Text.exists_sameLetter hword hc
    have hall : partWords.flatten.all (! ·.isDigit) := by decide
    have hletter := List.all_eq_true.mp hall d (List.mem_flatten.mpr ⟨plain, hplain, hd⟩)
    exact Text.isDigit_of_sameLetter (by simpa using hletter) hsame
  · by_contra hdigit
    rw [Bool.not_eq_false] at hdigit
    have hgap := h.gap c hc
    rw [isPartGap_of_isDecimalDigit (isDecimalDigit_of_isDigit hdigit)] at hgap
    cases hgap

end ReadsPart

/-- A space ends a part number just as the end of the text does. -/
theorem readsPart_append_space_iff :
    ReadsPart before (after ++ ' ' :: behind) lead word gap number close ↔
    ReadsPart before after lead word gap number close := by
  have hedge : Regex.atWordEdge number.getLast? (after ++ ' ' :: behind).head? =
      Regex.atWordEdge number.getLast? after.head? := by
    cases after with
    | cons c after => rfl
    | nil =>
      have hspace : Regex.isWordAt (some ' ') = false := by decide
      rw [Regex.atWordEdge, Regex.atWordEdge, List.nil_append, List.head?_cons, hspace]
      rfl
  constructor
  · intro h
    exact ⟨h.lead, h.word, h.gap, h.digits, h.short, hedge ▸ h.close⟩
  · intro h
    exact ⟨h.lead, h.word, h.gap, h.digits, h.short, hedge.symm ▸ h.close⟩

/-- A part number stands in the text. -/
def HoldsPart (text : List Char) : Prop :=
  ∃ front trace after, partDecoration.MatchesAt text front trace after

/-- What stands behind a space has no share in a part number in front of it, unless it is the
number. -/
theorem matchesAt_of_append (hbehind : ∀ c ∈ (behind.dropWhile isPartGap).head?,
      Text.isDecimalDigit c = false) (hlength : front.length < text.length)
    (h : partDecoration.MatchesAt (text ++ ' ' :: behind) front trace after) :
    ∃ more, partDecoration.MatchesAt text front trace more := by
  obtain ⟨lead, word, gap, number, close, hpart, rfl⟩ := reads_partDecoration.mp h.reads
  have hlead : (front ++ lead).length ≤ text.length := by
    rcases hpart.lead with ⟨-, rfl⟩ | ⟨c, -, rfl⟩
    · simpa using Nat.le_of_lt hlength
    · rw [List.length_append, List.length_singleton]
      exact hlength
  have htext : (front ++ lead) ++ (word ++ (gap ++ (number ++ (close ++ after)))) =
      text ++ ' ' :: behind := by
    rw [h.text_eq]
    simp
  -- piece by piece, each ends in front of the space
  obtain ⟨tail, rfl, htail⟩ := Text.append_eq_of_not_mem hpart.space_not_mem_word hlead htext
  obtain ⟨digits, rfl, hdigits⟩ : ∃ digits, tail = gap ++ digits ∧
      number ++ (close ++ after) = digits ++ ' ' :: behind := by
    rcases List.append_eq_append_iff.mp htail with ⟨digits, htail, hrest⟩ | ⟨more, rfl, hrest⟩
    · exact ⟨digits, htail, hrest⟩
    · cases more with
      | nil => exact ⟨[], by simp, hrest.symm⟩
      | cons c more =>
        -- blanks that go on behind the space would have the number behind them
        exfalso
        obtain ⟨-, hrest⟩ := List.cons.inj hrest
        obtain ⟨d, others, hnumber⟩ := List.exists_cons_of_ne_nil hpart.digits.1
        have hd := hpart.digits.2 d (by simp [hnumber])
        have hmore : ∀ c ∈ more, isPartGap c := fun c hc => hpart.gap c (by simp [hc])
        have hhead : ∀ c ∈ (number ++ (close ++ after)).head?, isPartGap c = false := by
          rw [hnumber]
          rintro _ ⟨⟩
          exact isPartGap_of_isDecimalDigit hd
        have hdrop : behind.dropWhile isPartGap = number ++ (close ++ after) := by
          rw [hrest]
          exact Text.dropWhile_append_of_head hmore hhead
        rw [hbehind d (by simp [hdrop, hnumber])] at hd
        cases hd
  obtain ⟨tail, rfl, hclose⟩ :=
    @Text.append_eq_of_not_mem ' ' [] _ _ _ _ hpart.space_not_mem_number (Nat.zero_le _) hdigits
  obtain ⟨more, rfl, hmore⟩ :=
    @Text.append_eq_of_not_mem ' ' [] _ _ _ _ hpart.space_not_mem_close (Nat.zero_le _) hclose
  rw [hmore] at hpart
  refine ⟨more, by simp, reads_partDecoration.mpr ⟨lead, word, gap, number, close, ?_, rfl⟩⟩
  exact readsPart_append_space_iff.mp hpart

/-- A part number stays one when a space and more text come behind. -/
theorem matchesAt_append (h : partDecoration.MatchesAt text front trace after) :
    partDecoration.MatchesAt (text ++ ' ' :: behind) front trace (after ++ ' ' :: behind) := by
  obtain ⟨lead, word, gap, number, close, hpart, rfl⟩ := reads_partDecoration.mp h.reads
  refine ⟨?_, reads_partDecoration.mpr ⟨lead, word, gap, number, close, ?_, rfl⟩⟩
  · rw [h.text_eq]
    simp
  · exact readsPart_append_space_iff.mpr hpart

/-- Where a space stands the text in front of it has no say. -/
theorem reads_partDecoration_of_space {other : Option Char}
    (htext : ' ' :: behind = Trace.text trace ++ after)
    (h : partDecoration.Reads before after trace) : partDecoration.Reads other after trace := by
  obtain ⟨lead, word, gap, number, close, hpart, rfl⟩ := reads_partDecoration.mp h
  refine reads_partDecoration.mpr ⟨lead, word, gap, number, close, ?_, rfl⟩
  refine ⟨.inr ?_, hpart.word, hpart.gap, hpart.digits, hpart.short, hpart.close⟩
  rcases hpart.lead with ⟨-, rfl⟩ | hlead
  · -- the word would start with the space
    obtain ⟨first, rest, rfl, -⟩ := hpart.exists_first
    rw [text_partTrace, List.nil_append] at htext
    obtain ⟨rfl, -⟩ := List.cons.inj htext
    exact absurd List.mem_cons_self hpart.space_not_mem_word
  · exact hlead

/-- What a part number in front of more text stands behind is the same with a text in front. -/
theorem matchesAt_behind_iff {back : List Char} :
    partDecoration.MatchesAt (text ++ ' ' :: behind) (text ++ back) trace after ↔
      partDecoration.MatchesAt (' ' :: behind) back trace after := by
  have htext : text ++ ' ' :: behind = text ++ back ++ (Trace.text trace ++ after) ↔
      ' ' :: behind = back ++ (Trace.text trace ++ after) := by
    rw [List.append_assoc, List.append_cancel_left_eq]
  cases back with
  | nil =>
    constructor
    · rintro ⟨heq, hreads⟩
      exact ⟨htext.mp heq, reads_partDecoration_of_space (htext.mp heq) hreads⟩
    · rintro ⟨heq, hreads⟩
      exact ⟨htext.mpr heq, reads_partDecoration_of_space heq hreads⟩
  | cons c back =>
    have hlast : (text ++ c :: back).getLast? = (c :: back).getLast? :=
      List.getLast?_append_of_ne_nil text (List.cons_ne_nil c back)
    constructor
    · rintro ⟨heq, hreads⟩
      exact ⟨htext.mp heq, hlast ▸ hreads⟩
    · rintro ⟨heq, hreads⟩
      exact ⟨htext.mpr heq, hlast.symm ▸ hreads⟩

/-- A part number stands on one side of a space, with the space itself on the right, unless a number
follows the space. -/
theorem holdsPart_append_iff (hbehind : ∀ c ∈ (behind.dropWhile isPartGap).head?,
      Text.isDecimalDigit c = false) :
    HoldsPart (text ++ ' ' :: behind) ↔ HoldsPart text ∨ HoldsPart (' ' :: behind) := by
  constructor
  · rintro ⟨front, trace, after, h⟩
    by_cases hlength : front.length < text.length
    · obtain ⟨more, hmatches⟩ := matchesAt_of_append hbehind hlength h
      exact .inl ⟨front, trace, more, hmatches⟩
    · obtain ⟨back, rfl⟩ : text <+: front :=
        List.prefix_of_prefix_length_le ⟨_, rfl⟩ ⟨_, h.text_eq.symm⟩ (Nat.not_lt.mp hlength)
      exact .inr ⟨back, trace, after, matchesAt_behind_iff.mp h⟩
  · rintro (⟨front, trace, after, h⟩ | ⟨back, trace, after, h⟩)
    · exact ⟨front, trace, _, matchesAt_append h⟩
    · exact ⟨text ++ back, trace, after, matchesAt_behind_iff.mpr h⟩

/-- Text without the letters that start the words for parts holds no part number. -/
theorem not_holdsPart_of_letters
    (h : ∀ c ∈ text, sameLetter 'p' c = false ∧ sameLetter 'c' c = false) : ¬HoldsPart text := by
  rintro ⟨front, trace, after, hmatches⟩
  obtain ⟨lead, word, gap, number, close, hpart, rfl⟩ := reads_partDecoration.mp hmatches.reads
  obtain ⟨first, rest, rfl, hfirst⟩ := hpart.exists_first
  obtain ⟨hp, hc⟩ := h first (by rw [hmatches.text_eq]; simp)
  rw [hp, hc] at hfirst
  simp at hfirst

/-- In clean text every part number has a value. -/
theorem stripPart_of_find? {found : Regex.Found Token} (hclean : ∀ c ∈ text, Text.isClean c)
    (hfind : partDecoration.find? text = some found) :
    ∃ number n, found.group? .part = some number ∧ Text.Numeral number n ∧
      stripPart text = (found.before ++ ' ' :: found.rest, some n) := by
  obtain ⟨htext, hreads⟩ := Node.matchesAt_of_find? hfind
  obtain ⟨lead, word, gap, number, close, hpart, htrace⟩ := reads_partDecoration.mp hreads
  rw [htrace] at htext
  have hdigits : Text.AsciiDigits number := by
    refine ⟨hpart.digits.1, fun c hc => Text.isDigit_of_isClean (hclean c ?_) (hpart.digits.2 c hc)⟩
    rw [htext]
    simp [hc]
  have hnumeral := Text.numeral_of_length_le hdigits (Nat.le_trans hpart.short (by decide))
  have hgroup : found.group? .part = some number := by
    rw [Regex.Found.group?, htrace, group?_partTrace]
  refine ⟨number, _, hgroup, hnumeral, ?_⟩
  unfold stripPart
  rw [hfind]
  dsimp only
  rw [hgroup, Option.bind_some, hnumeral.readWord?]

/-- So a part number is taken off clean text if there is one. -/
theorem part_stripPart_eq_none_iff (hclean : ∀ c ∈ text, Text.isClean c) :
    (stripPart text).2 = none ↔ ¬HoldsPart text := by
  rw [HoldsPart, ← Node.isSome_find?_iff, Option.not_isSome_iff_eq_none]
  constructor
  · intro h
    cases hfind : partDecoration.find? text with
    | none => rfl
    | some found =>
      obtain ⟨-, n, -, -, hstrip⟩ := stripPart_of_find? hclean hfind
      rw [hstrip] at h
      cases h
  · intro hfind
    rw [stripPart, hfind]

/-! ### A part number written out -/

/-- The word `Part` with a number, as it is written behind a title. -/
def writtenPart (number : List Char) : List Char := ' ' :: 'P' :: 'a' :: 'r' :: 't' :: ' ' :: number

variable {digits rest : List Char}

theorem isWordAt_of_isDigit (h : c.isDigit) : Regex.isWordAt (some c) := by
  simp [Regex.isWordAt, Text.isWordChar, Char.isAlphanum, h]

/-- No digit stands behind the number, since no word ends between digits. -/
theorem isDigit_behind_number (hne : digits ≠ []) (hdigits : ∀ c ∈ digits, c.isDigit)
    (hclose : (∃ c ∈ [')', ']'], close = [c]) ∨
      close = [] ∧ Regex.atWordEdge digits.getLast? after.head?)
    (hc : c ∈ (close ++ after).head?) : c.isDigit = false := by
  rcases hclose with ⟨d, hd, rfl⟩ | ⟨rfl, hedge⟩
  · obtain rfl : d = c := by simpa using hc
    simp only [List.mem_cons, List.not_mem_nil, or_false] at hd
    rcases hd with rfl | rfl <;> rfl
  · by_contra hdigit
    rw [Bool.not_eq_false] at hdigit
    obtain ⟨front, last, rfl⟩ := (List.eq_nil_or_concat digits).resolve_left hne
    rw [List.nil_append] at hc
    rw [Option.mem_def.mp hc, Regex.atWordEdge] at hedge
    simp [isWordAt_of_isDigit hdigit, isWordAt_of_isDigit (hdigits last (by simp))] at hedge

/-- The number goes on to the last digit. -/
theorem number_unique (hdigits : IsDigits digits) (hclose : (∃ c ∈ [')', ']'], close = [c]) ∨
      close = [] ∧ Regex.atWordEdge digits.getLast? after.head?)
    (hnumber : ∀ c ∈ number, c.isDigit) (hrest : ∀ c ∈ rest.head?, c = ' ')
    (h : digits ++ (close ++ after) = number ++ rest) : digits = number ∧ after = rest := by
  obtain rfl : digits = number := by
    rcases List.append_eq_append_iff.mp h with ⟨more, hmore, hbehind⟩ | ⟨more, hmore, hbehind⟩
    · cases more with
      | nil => rw [hmore, List.append_nil]
      | cons d more =>
        exfalso
        have hd : d.isDigit := hnumber d (by simp [hmore])
        rw [isDigit_behind_number hdigits.1 (fun c hc => hnumber c (by simp [hmore, hc])) hclose
          (by rw [hbehind]; rfl)] at hd
        cases hd
    · cases more with
      | nil => rw [hmore, List.append_nil]
      | cons d more =>
        rw [hrest d (by simp [hbehind])] at hmore
        exact absurd (hdigits.2 ' ' (by simp [hmore])) (by decide)
  rw [List.append_cancel_left_eq] at h
  rcases hclose with ⟨c, hc, rfl⟩ | ⟨rfl, -⟩
  · rw [hrest c (by rw [← h]; rfl)] at hc
    exact absurd hc (by decide)
  · exact ⟨rfl, h⟩

/-- Where such a part is written no other one can be read. -/
theorem ReadsPart.eq_writtenPart (h : ReadsPart before after lead word gap digits close)
    (hnumber : Text.AsciiDigits number) (hrest : ∀ c ∈ rest.head?, c = ' ')
    (htext : writtenPart number ++ rest = lead ++ (word ++ (gap ++ (digits ++ (close ++ after))))) :
    digits = number ∧ after = rest := by
  obtain ⟨plain, hplain, hword⟩ := h.word
  rcases h.lead with ⟨-, rfl⟩ | ⟨c, -, rfl⟩
  · obtain ⟨first, others, rfl, -⟩ := h.exists_first
    obtain ⟨rfl, -⟩ := List.cons.inj htext
    exact absurd List.mem_cons_self h.space_not_mem_word
  · have hback : 'P' :: 'a' :: 'r' :: 't' :: ' ' :: (number ++ rest) =
        word ++ (gap ++ (digits ++ (close ++ after))) := (List.cons.inj htext).2
    have hgap : gap ++ (digits ++ (close ++ after)) = [' '] ++ (number ++ rest) := by
      simp only [partWords, List.mem_cons, List.not_mem_nil, or_false] at hplain
      rcases hplain with rfl | rfl | rfl
      · obtain _ | ⟨-, _ | ⟨-, _ | ⟨-, _ | ⟨-, _ | _⟩⟩⟩⟩ := hword
        simp only [List.cons_append, List.nil_append, List.cons.injEq] at hback
        exact hback.2.2.2.2.symm
      · obtain _ | ⟨-, _ | ⟨ht, -⟩⟩ := hword
        obtain ⟨rfl, -⟩ := List.cons.inj (List.cons.inj hback).2
        exact absurd ht (by decide)
      · obtain _ | ⟨hc, -⟩ := hword
        obtain ⟨rfl, -⟩ := List.cons.inj hback
        exact absurd hc (by decide)
    have hhead {text : List Char} (hdigits : IsDigits text) (rest : List Char) :
        ∀ c ∈ (text ++ rest).head?, isPartGap c = false := by
      intro c hc
      rw [List.head?_append_of_ne_nil text hdigits.1] at hc
      exact isPartGap_of_isDecimalDigit (hdigits.2 c (List.mem_of_mem_head? hc))
    have hdecimal : IsDigits number :=
      ⟨hnumber.1, fun c hc => isDecimalDigit_of_isDigit (hnumber.2 c hc)⟩
    obtain ⟨-, hnumbers⟩ := Text.run_unique h.gap (by simp [isPartGap_space]) (hhead h.digits _)
      (hhead hdecimal _) hgap
    exact number_unique h.digits h.close hnumber.2 hrest hnumbers

/-- Such a part behind a title without one is taken off, and a space is left in its place. -/
theorem stripPart_behind (hclean : ∀ c ∈ text ++ (writtenPart number ++ rest), Text.isClean c)
    (h : ¬HoldsPart text) (hnumber : Text.AsciiDigits number) (hshort : number.length ≤ 2)
    (hrest : ∀ c ∈ rest.head?, c = ' ') : ∃ n, Text.Numeral number n ∧
      stripPart (text ++ (writtenPart number ++ rest)) = (text ++ ' ' :: rest, some n) := by
  have hdecimal : IsDigits number :=
    ⟨hnumber.1, fun c hc => isDecimalDigit_of_isDigit (hnumber.2 c hc)⟩
  have hedge : Regex.atWordEdge number.getLast? rest.head? := by
    obtain ⟨front, last, rfl⟩ := (List.eq_nil_or_concat number).resolve_left hnumber.1
    have hlast : last.isDigit := hnumber.2 last (by simp)
    have hbehind : Regex.isWordAt rest.head? = false := by
      cases rest with
      | nil => rfl
      | cons c rest =>
        rw [List.head?_cons, hrest c rfl]
        decide
    rw [Regex.atWordEdge, hbehind]
    simp [isWordAt_of_isDigit hlast]
  have hword : ∀ c ∈ (('P' :: 'a' :: 'r' :: 't' :: ' ' :: (number ++ rest)).dropWhile
      isPartGap).head?, Text.isDecimalDigit c = false := by
    rw [List.dropWhile_cons_of_neg (by decide)]
    rintro _ ⟨⟩
    decide
  have hmatches : partDecoration.MatchesAt (text ++ (writtenPart number ++ rest)) text
      (partTrace [' '] ['P', 'a', 'r', 't'] [' '] number []) rest := by
    refine ⟨by simp [writtenPart], reads_partDecoration.mpr ⟨_, _, _, _, _, ?_, rfl⟩⟩
    refine ⟨.inr ⟨' ', rfl, rfl⟩, ⟨['p', 'a', 'r', 't'], by simp [partWords], ?_⟩, ?_, hdecimal,
      hshort, .inr ⟨rfl, hedge⟩⟩
    · simp only [List.forall₂_cons, List.Forall₂.nil, and_true]
      decide
    · simp [isPartGap_space]
  obtain ⟨trace, after, hfind, htext, hreads⟩ := Node.find?_of_first hmatches
    fun earlier _ _ hearlier => by
      by_contra hlength
      obtain ⟨more, hfront⟩ := matchesAt_of_append hword (Nat.not_le.mp hlength) hearlier
      exact h ⟨_, _, _, hfront⟩
  obtain ⟨lead, word, gap, digits, close, hpart, rfl⟩ := reads_partDecoration.mp hreads
  obtain ⟨rfl, rfl⟩ := hpart.eq_writtenPart hnumber hrest (by simpa using htext)
  obtain ⟨_, n, hgroup, hnumeral, hstrip⟩ := stripPart_of_find? hclean hfind
  rw [Regex.Found.group?, group?_partTrace, Option.some.injEq] at hgroup
  exact ⟨n, hgroup ▸ hnumeral, hstrip⟩

/-- A number of more than two digits is no part number. -/
theorem not_holdsPart_writtenPart (hnumber : Text.AsciiDigits number) (hlong : 2 < number.length)
    (hrest : ∀ c ∈ rest.head?, c = ' ')
    (hletters : ∀ c ∈ rest, sameLetter 'p' c = false ∧ sameLetter 'c' c = false) :
    ¬HoldsPart (writtenPart number ++ rest) := by
  rintro ⟨front, trace, after, hmatches⟩
  obtain ⟨lead, word, gap, digits, close, hpart, rfl⟩ := reads_partDecoration.mp hmatches.reads
  have htext : writtenPart number ++ rest =
      front ++ (lead ++ (word ++ (gap ++ (digits ++ (close ++ after))))) := by
    simpa using hmatches.text_eq
  cases front with
  | nil =>
    obtain ⟨rfl, -⟩ := hpart.eq_writtenPart hnumber hrest htext
    exact absurd hpart.short (Nat.not_le.mpr hlong)
  | cons c front =>
    -- further on the word would have to start behind the letter P
    obtain ⟨first, others, rfl, hfirst⟩ := hpart.exists_first
    obtain ⟨d, between, hbetween⟩ : ∃ d between, front ++ lead = d :: between := by
      rcases hpart.lead with ⟨hnone, -⟩ | ⟨d, -, rfl⟩
      · simp at hnone
      · exact List.exists_cons_of_ne_nil (by simp)
    have hback : 'P' :: 'a' :: 'r' :: 't' :: ' ' :: (number ++ rest) =
        (front ++ lead) ++ first :: (others ++ (gap ++ (digits ++ (close ++ after)))) := by
      simpa using (List.cons.inj htext).2
    rw [hbetween] at hback
    have hmem : first ∈ 'a' :: 'r' :: 't' :: ' ' :: (number ++ rest) := by
      rw [(List.cons.inj hback).2]
      simp
    have hnone : sameLetter 'p' first = false ∧ sameLetter 'c' first = false := by
      simp only [List.mem_cons, List.mem_append] at hmem
      rcases hmem with rfl | rfl | rfl | rfl | hmem | hmem
      · decide
      · decide
      · decide
      · decide
      · exact ⟨Text.not_sameLetter_of_isDigit (by decide) (hnumber.2 first hmem),
          Text.not_sameLetter_of_isDigit (by decide) (hnumber.2 first hmem)⟩
      · exact hletters first hmem
    rw [hnone.1, hnone.2] at hfirst
    simp at hfirst

end Part

end MediaShelf.Pattern
