import MediaShelf.Proofs.Pattern.DecorationPlace
import MediaShelf.Proofs.Search.Show
import MediaShelf.Search.Film

/-!
# Release names

A release name puts words and years together with one separator. None of it is in brackets, so no
year is a decoration, and its numbers are too long for parts. The first year with items on both of
its sides ends the title.

## Main definitions

* `IsItem` — a word or a year
* `IsYearIn` — a year among items, with more behind it
* `cutItems` — the items of the title and the year behind them

## Main results

* `stripDecorations_joinWith` — no decoration is taken off
* `matchesAt_bareYear_iff` — the bare years of a release name
* `cutAtYear_joinWith` — where a release name is cut
-/

namespace MediaShelf.Search

open Pattern (IsCenturyYear Token groupTrace)
open Regex (Node Trace)

variable {item first year : List Char} {items : List (List Char)} {c separator : Char}

/-! ### Items -/

/-- A word of ASCII letters or a year. -/
def IsItem (item : List Char) : Prop :=
  IsPlainYear item ∨ item ≠ [] ∧ ∀ c ∈ item, c.isAlpha

theorem isItem_of_all (h : !item.isEmpty && item.all Char.isAlpha) : IsItem item := by
  rw [Bool.and_eq_true, List.all_eq_true] at h
  exact .inr ⟨by simpa using h.1, h.2⟩

theorem IsPlainYear.isDigit (h : IsPlainYear year) : ∀ c ∈ year, c.isDigit := by
  obtain ⟨a, b, ha, hb, rfl | rfl⟩ := h <;> simp [ha, hb]

namespace IsItem

variable (h : IsItem item)
include h

theorem ne_nil : item ≠ [] := by
  rcases h with ⟨a, b, -, -, rfl | rfl⟩ | ⟨hne, -⟩
  · simp
  · simp
  · exact hne

theorem isAlphanum (hc : c ∈ item) : c.isAlphanum := by
  rcases h with hyear | ⟨-, halpha⟩
  · simp [Char.isAlphanum, hyear.isDigit c hc]
  · simp [Char.isAlphanum, halpha c hc]

/-- Items have no characters of a kind without letters and digits. -/
theorem eq_false {p : Char → Bool} (hp : ∀ c, p c → c.isAlphanum = false) (hc : c ∈ item) :
    p c = false := by
  by_contra hkind
  rw [Bool.not_eq_false] at hkind
  have halphanum := h.isAlphanum hc
  rw [hp c hkind] at halphanum
  cases halphanum

/-- An item with a digit in it is a year. -/
theorem isPlainYear (hc : c ∈ item) (hdigit : c.isDigit) : IsPlainYear item := by
  rcases h with hyear | ⟨-, halpha⟩
  · exact hyear
  · have hletter := halpha c hc
    rw [Text.isAlpha_iff, Text.isUpper_iff, Text.isLower_iff] at hletter
    rw [Text.isDigit_iff] at hdigit
    omega

end IsItem

/-- The characters that separate the items of a release name. -/
def itemSeparators : List Char := ['.', '_', ' ']

theorem isAlphanum_of_mem_itemSeparators (h : separator ∈ itemSeparators) :
    separator.isAlphanum = false := by
  simp only [itemSeparators, List.mem_cons, List.not_mem_nil, or_false] at h
  rcases h with rfl | rfl | rfl <;> rfl

theorem IsItem.not_mem_itemSeparators (h : IsItem item) (hc : c ∈ item) : c ∉ itemSeparators := by
  intro hmem
  have halphanum := h.isAlphanum hc
  rw [isAlphanum_of_mem_itemSeparators hmem] at halphanum
  cases halphanum

section Name

variable (hitems : ∀ item ∈ items, IsItem item)
include hitems

theorem isAlphanum_of_mem_joinWith (hc : c ∈ Text.joinWith [separator] items) :
    c.isAlphanum ∨ c = separator := by
  rcases Text.mem_joinWith hc with ⟨item, hitem, hc⟩ | hc
  · exact .inl ((hitems item hitem).isAlphanum hc)
  · exact .inr (List.mem_singleton.mp hc)

variable (hseparator : separator ∈ itemSeparators)
include hseparator

/-- Items come back when a release name is split. -/
theorem splitBy_items (hne : items ≠ []) :
    Text.splitBy (· == separator) (Text.joinWith [separator] items) = items :=
  Text.splitBy_joinWith hne fun item hitem hmem =>
    (hitems item hitem).not_mem_itemSeparators hmem hseparator

theorem not_mem_joinWith {c : Char} (hc : c.isAlphanum = false) (hother : c ∉ itemSeparators) :
    c ∉ Text.joinWith [separator] items := by
  intro hmem
  rcases isAlphanum_of_mem_joinWith hitems hmem with halphanum | rfl
  · rw [hc] at halphanum
    cases halphanum
  · exact hother hseparator

/-- Digits of a release name between other characters are a year. -/
theorem isPlainYear_of_run {front run back : List Char} (hne : run ≠ [])
    (hrun : ∀ c ∈ run, c.isDigit) (hfront : ∀ c ∈ front.getLast?, c.isDigit = false)
    (hback : ∀ c ∈ back.head?, c.isDigit = false)
    (htext : Text.joinWith [separator] items = front ++ (run ++ back)) : IsPlainYear run := by
  have hitemsNe : items ≠ [] := by
    rintro rfl
    have hnil := List.append_eq_nil_iff.mp (List.append_eq_nil_iff.mp htext.symm).2
    exact hne hnil.1
  have hfree : ∀ c ∈ run, (c == separator) = false := by
    intro c hc
    rw [beq_eq_false_iff_ne]
    rintro rfl
    have hdigit := isAlphanum_of_mem_itemSeparators hseparator
    simp [Char.isAlphanum, hrun c hc] at hdigit
  obtain ⟨before, last, next, after, hlast, hnext, hsplit⟩ :=
    Text.splitBy_around hfree front back
  rw [← htext, splitBy_items hitems hseparator hitemsNe] at hsplit
  -- the digits are in one item, and the item goes no further on either side
  have hitem : IsItem (last ++ run ++ next) := hitems _ (by rw [hsplit]; simp)
  obtain ⟨d, digits, rfl⟩ := List.exists_cons_of_ne_nil hne
  have hyear : IsPlainYear (last ++ (d :: digits) ++ next) :=
    hitem.isPlainYear (c := d) (by simp) (hrun d List.mem_cons_self)
  have hlastNil : last = [] := by
    by_contra hsome
    obtain ⟨lead, rfl⟩ := Text.suffix_of_splitBy hlast
    obtain ⟨c, hc⟩ := Option.isSome_iff_exists.mp (List.getLast?_isSome.mpr hsome)
    have hdigit := hyear.isDigit c (by simp [List.mem_of_getLast? hc])
    rw [hfront c (by rw [List.getLast?_append_of_ne_nil _ hsome, hc]; rfl)] at hdigit
    cases hdigit
  have hnextNil : next = [] := by
    by_contra hsome
    obtain ⟨more, rfl⟩ := Text.prefix_of_splitBy hnext
    obtain ⟨c, next, rfl⟩ := List.exists_cons_of_ne_nil hsome
    have hdigit := hyear.isDigit c (by simp)
    rw [hback c rfl] at hdigit
    cases hdigit
  simpa [hlastNil, hnextNil] using hyear

/-- The digits of any script that stand in a release name are ASCII digits. -/
theorem isDigit_of_mem_joinWith {c : Char} (hc : c ∈ Text.joinWith [separator] items)
    (hdigit : Text.isDecimalDigit c) : c.isDigit := by
  rcases isAlphanum_of_mem_joinWith hitems hc with halphanum | rfl
  · exact Text.isDigit_of_isClean (by simp [Text.isClean, halphanum]) hdigit
  · simp only [itemSeparators, List.mem_cons, List.not_mem_nil, or_false] at hseparator
    rcases hseparator with rfl | rfl | rfl <;> exact absurd hdigit (by decide)

/-- No part number stands in a release name. -/
theorem not_holdsPart_joinWith : ¬Pattern.HoldsPart (Text.joinWith [separator] items) := by
  rintro ⟨front, trace, after, hmatches⟩
  obtain ⟨lead, word, gap, number, close, hpart, rfl⟩ :=
    Pattern.reads_partDecoration.mp hmatches.reads
  have htext : Text.joinWith [separator] items =
      (front ++ lead ++ (word ++ gap)) ++ (number ++ (close ++ after)) := by
    simpa using hmatches.text_eq
  have hnumber : ∀ c ∈ number, c.isDigit := fun c hc =>
    isDigit_of_mem_joinWith hitems hseparator (by rw [htext]; simp [hc]) (hpart.digits.2 c hc)
  have hfront : ∀ c ∈ (front ++ lead ++ (word ++ gap)).getLast?, c.isDigit = false := by
    obtain ⟨first, rest, rfl, -⟩ := hpart.exists_first
    rw [List.getLast?_append_of_ne_nil _ (by simp)]
    exact fun c => hpart.isDigit_before_number
  have hback : ∀ c ∈ (close ++ after).head?, c.isDigit = false :=
    fun c => Pattern.isDigit_behind_number hpart.digits.1 hnumber hpart.close
  have hyear := isPlainYear_of_run hitems hseparator hpart.digits.1 hnumber hfront hback htext
  exact absurd hpart.short (by rw [hyear.isCenturyYear.accepts.1]; decide)

/-- No decoration is taken off a release name. -/
theorem stripDecorations_joinWith : Pattern.stripDecorations (Text.joinWith [separator] items) =
    ⟨Text.joinWith [separator] items, none, none⟩ := by
  have hyear : ¬Pattern.HoldsBracketedYear (Text.joinWith [separator] items) :=
    Pattern.not_holdsBracketedYear_of_free
      (not_mem_joinWith hitems hseparator (by decide) (by decide))
      (not_mem_joinWith hitems hseparator (by decide) (by decide))
  have hpart := not_holdsPart_joinWith hitems hseparator
  rw [Pattern.HoldsPart, ← Node.isSome_find?_iff, Option.not_isSome_iff_eq_none] at hpart
  simp [Pattern.stripDecorations, Pattern.stripYear_eq_self hyear, Pattern.stripPart, hpart]

end Name

/-! ### The year behind the title -/

/-- Whether the item is a year. -/
def isYearItem : List Char → Bool
  | [a, b, c, d] => (a == '1' && b == '9' || a == '2' && b == '0') && c.isDigit && d.isDigit
  | _ => false

theorem isYearItem_iff : isYearItem item ↔ IsPlainYear item := by
  constructor
  · intro h
    unfold isYearItem at h
    split at h
    · next a b c d =>
      simp only [Bool.and_eq_true, Bool.or_eq_true, beq_iff_eq] at h
      obtain ⟨⟨⟨rfl, rfl⟩ | ⟨rfl, rfl⟩, hc⟩, hd⟩ := h
      · exact ⟨c, d, hc, hd, .inl rfl⟩
      · exact ⟨c, d, hc, hd, .inr rfl⟩
    · cases h
  · rintro ⟨a, b, ha, hb, rfl | rfl⟩ <;> simp [isYearItem, ha, hb]

/-- The items behind the first one up to a year that more items follow, and that year. -/
def cutRest : List (List Char) → List (List Char) × Option (List Char)
  | item :: next :: items =>
    if isYearItem item then ([], some item)
    else (item :: (cutRest (next :: items)).1, (cutRest (next :: items)).2)
  | items => (items, none)

/-- The items of the title and the year behind them: the first year that is neither the first nor
the last item. Without one all items belong to the title. -/
def cutItems : List (List Char) → List (List Char) × Option (List Char)
  | [] => ([], none)
  | first :: items => (first :: (cutRest items).1, (cutRest items).2)

/-- A year among items, with more items behind it. -/
structure IsYearIn (items front : List (List Char)) (year : List Char) (back : List (List Char)) :
    Prop where
  items_eq : items = front ++ year :: back
  isPlainYear : IsPlainYear year
  back_ne_nil : back ≠ []

/-- The first such year is what items are cut at. -/
theorem cutRest_cases (items : List (List Char)) :
    (cutRest items = (items, none) ∧ ∀ front year back, ¬IsYearIn items front year back) ∨
      ∃ front year back, cutRest items = (front, some year) ∧ IsYearIn items front year back ∧
        ∀ earlier other behind, IsYearIn items earlier other behind →
          front.length ≤ earlier.length := by
  induction items using cutRest.induct with
  | case1 item next items hyear =>
    refine .inr ⟨[], item, next :: items, by simp [cutRest, hyear],
      ⟨rfl, isYearItem_iff.mp hyear, by simp⟩, by simp⟩
  | case2 item next items hyear ih =>
    -- the item is no year, so a year among the items is one among those behind it
    have hbehind {front back : List (List Char)} {year : List Char}
        (h : IsYearIn (item :: next :: items) front year back) :
        ∃ lead, front = item :: lead ∧ IsYearIn (next :: items) lead year back := by
      obtain ⟨hitems, hplain, hback⟩ := h
      cases front with
      | nil =>
        obtain ⟨rfl, -⟩ := List.cons.inj hitems
        exact absurd (isYearItem_iff.mpr hplain) hyear
      | cons first lead =>
        obtain ⟨rfl, hrest⟩ := List.cons.inj hitems
        exact ⟨lead, rfl, hrest, hplain, hback⟩
    have hcut : cutRest (item :: next :: items) =
        (item :: (cutRest (next :: items)).1, (cutRest (next :: items)).2) := by
      simp [cutRest, hyear]
    rcases ih with ⟨hnone, hfree⟩ | ⟨front, year, back, hsome, hfound, hfirst⟩
    · refine .inl ⟨by rw [hcut, hnone], fun front year back h => ?_⟩
      obtain ⟨lead, -, hlater⟩ := hbehind h
      exact hfree _ _ _ hlater
    · obtain ⟨hitems, hplain, hback⟩ := hfound
      refine .inr ⟨item :: front, year, back, by rw [hcut, hsome],
        ⟨by rw [hitems]; rfl, hplain, hback⟩, fun earlier other behind h => ?_⟩
      obtain ⟨lead, rfl, hlater⟩ := hbehind h
      exact Nat.succ_le_succ (hfirst _ _ _ hlater)
  | case3 items hshort =>
    refine .inl ⟨by rw [cutRest]; exact hshort, fun front year back h => ?_⟩
    obtain ⟨rfl, -, hback⟩ := h
    obtain ⟨next, back, rfl⟩ := List.exists_cons_of_ne_nil hback
    cases front with
    | nil => exact hshort _ _ _ rfl
    | cons item front =>
      cases front with
      | nil => exact hshort _ _ _ rfl
      | cons other front => exact hshort _ _ _ rfl

/-- The items of the title are the first items. -/
theorem cutItems_prefix (items : List (List Char)) : (cutItems items).1 <+: items := by
  cases items with
  | nil => exact List.prefix_rfl
  | cons first items =>
    refine (List.prefix_cons_inj first).mpr ?_
    rcases cutRest_cases items with ⟨hnone, -⟩ | ⟨front, year, back, hsome, hfound, -⟩
    · simpa only [hnone] using List.prefix_rfl
    · rw [hsome, hfound.items_eq]
      exact List.prefix_append front _

/-- The characters that may stand around a bare year. -/
def isNameBreak (c : Char) : Bool := Text.isBlank c || c == '.' || c == '_'

theorem reads_bareYear {before : Option Char} {after : List Char} {trace : Trace Token} :
    bareYear.Reads before after trace ↔ ∃ opening year closing, isNameBreak opening ∧
      IsCenturyYear year ∧ isNameBreak closing ∧
      trace = .char opening :: (groupTrace .year year ++ [.char closing]) := by
  constructor
  · rintro ⟨_, _, ⟨opening, hopening, rfl⟩, ⟨_, _, ⟨_, hinner, rfl⟩, ⟨closing, hclosing, rfl⟩, rfl⟩,
      rfl⟩
    obtain ⟨year, hyear, rfl⟩ := Pattern.isCenturyYear_of_reads hinner
    exact ⟨opening, year, closing, hopening, hyear, hclosing, rfl⟩
  · rintro ⟨opening, year, closing, hopening, hyear, hclosing, rfl⟩
    exact ⟨[.char opening], groupTrace .year year ++ [.char closing], ⟨opening, hopening, rfl⟩,
      ⟨groupTrace .year year, [.char closing], ⟨_, hyear.reads, rfl⟩,
        ⟨closing, hclosing, rfl⟩, rfl⟩,
      rfl⟩

theorem isNameBreak_of_mem_itemSeparators (h : separator ∈ itemSeparators) :
    isNameBreak separator := by
  simp only [itemSeparators, List.mem_cons, List.not_mem_nil, or_false] at h
  rcases h with rfl | rfl | rfl <;> rfl

theorem isAlphanum_of_isNameBreak (h : isNameBreak c) : c.isAlphanum = false := by
  rw [Bool.eq_false_iff, ne_eq, Text.isAlphanum_iff, Text.isUpper_iff, Text.isLower_iff,
    Text.isDigit_iff]
  simp only [isNameBreak, Text.isBlank, Bool.or_eq_true, Bool.and_eq_true, decide_eq_true_eq,
    beq_iff_eq] at h
  rcases h with (h | rfl) | rfl
  · omega
  · decide
  · decide

section Cut

variable (hitems : ∀ item ∈ first :: items, IsItem item) (hseparator : separator ∈ itemSeparators)
include hitems hseparator

/-- The bare years of a release name are the years among its items. -/
theorem matchesAt_bareYear_iff {front after : List Char} {trace : Trace Token} :
    bareYear.MatchesAt (Text.joinWith [separator] (first :: items)) front trace after ↔
      ∃ lead year back, IsYearIn items lead year back ∧
        front = Text.joinWith [separator] (first :: lead) ∧
        trace = .char separator :: (groupTrace .year year ++ [.char separator]) ∧
        after = Text.joinWith [separator] back := by
  constructor
  · rintro ⟨htext, hreads⟩
    obtain ⟨opening, year, closing, hopening, hyear, hclosing, rfl⟩ := reads_bareYear.mp hreads
    have hwhole : Text.joinWith [separator] (first :: items) =
        front ++ opening :: (year ++ closing :: after) := by
      simpa [Trace.text] using htext
    have hbreak {c : Char} (hc : isNameBreak c)
        (hmem : c ∈ Text.joinWith [separator] (first :: items)) : c = separator := by
      refine (isAlphanum_of_mem_joinWith hitems hmem).resolve_left fun halphanum => ?_
      rw [isAlphanum_of_isNameBreak hc] at halphanum
      cases halphanum
    obtain rfl := hbreak hopening (by rw [hwhole]; simp)
    obtain rfl := hbreak hclosing (by rw [hwhole]; simp)
    have hfree : ∀ c ∈ year, (c == closing) = false := by
      intro c hc
      rw [beq_eq_false_iff_ne]
      rintro rfl
      have hblank := hyear.isDecimalDigit c hc
      simp only [itemSeparators, List.mem_cons, List.not_mem_nil, or_false] at hseparator
      rcases hseparator with rfl | rfl | rfl <;> exact absurd hblank (by decide)
    have hsplit := splitBy_items hitems hseparator (List.cons_ne_nil first items)
    rw [hwhole, Text.splitBy_append_cons (p := (· == closing)) (by simp),
      Text.splitBy_append_cons (p := (· == closing)) (by simp),
        Text.splitBy_of_free hfree] at hsplit
    obtain ⟨other, lead, hlead⟩ :=
      List.exists_cons_of_ne_nil (Text.splitBy_ne_nil (p := (· == closing)) front)
    rw [hlead] at hsplit
    obtain ⟨rfl, rfl⟩ := List.cons.inj hsplit
    refine ⟨lead, year, Text.splitBy (· == closing) after, ⟨rfl, ?_, Text.splitBy_ne_nil after⟩, ?_,
      rfl, (Text.joinWith_splitBy closing after).symm⟩
    · have hitem : IsItem year := hitems year (by simp)
      exact isPlainYear_of_isClean hyear fun c hc => by simp [Text.isClean, hitem.isAlphanum hc]
    · rw [← hlead, Text.joinWith_splitBy]
  · rintro ⟨lead, year, back, ⟨rfl, hplain, hback⟩, rfl, rfl, rfl⟩
    have hbreak := isNameBreak_of_mem_itemSeparators hseparator
    refine ⟨?_, reads_bareYear.mpr ⟨_, year, _, hbreak, hplain.isCenturyYear, hbreak, rfl⟩⟩
    have hyear : Text.joinWith [separator] (year :: back) = _ :=
      Text.joinWith_append (List.cons_ne_nil year []) hback
    rw [← List.cons_append, Text.joinWith_append (List.cons_ne_nil first lead)
      (List.cons_ne_nil year back), hyear]
    simp [Trace.text, Text.joinWith]

/-- A release name is cut at the first such year. -/
theorem cutAtYear_joinWith : cutAtYear (Text.joinWith [separator] (first :: items)) =
    (Text.joinWith [separator] (cutItems (first :: items)).1, (cutItems (first :: items)).2) := by
  rcases cutRest_cases items with ⟨hnone, hfree⟩ | ⟨front, year, back, hsome, hfound, hfirst⟩
  · have hfind : bareYear.find? (Text.joinWith [separator] (first :: items)) = none := by
      rw [← Option.not_isSome_iff_eq_none, Node.isSome_find?_iff]
      rintro ⟨lead, trace, after, h⟩
      obtain ⟨_, _, _, hin, -⟩ := (matchesAt_bareYear_iff hitems hseparator).mp h
      exact hfree _ _ _ hin
    rw [cutAtYear, hfind, cutItems, hnone]
  · obtain ⟨trace, after, hfind, hmatches⟩ := Node.find?_of_first
      ((matchesAt_bareYear_iff hitems hseparator).mpr ⟨front, year, back, hfound, rfl, rfl, rfl⟩)
      fun earlier other behind h => by
        obtain ⟨lead, _, _, hin, rfl, -⟩ := (matchesAt_bareYear_iff hitems hseparator).mp h
        have hprefix : front <+: lead := List.prefix_of_prefix_length_le
          ⟨_, hfound.items_eq.symm⟩ ⟨_, hin.items_eq.symm⟩ (hfirst _ _ _ hin)
        exact (Text.joinWith_prefix (List.prefix_cons_inj first |>.mpr hprefix)).length_le
    obtain ⟨lead, other, behind, hin, hlead, rfl, -⟩ :=
      (matchesAt_bareYear_iff hitems hseparator).mp hmatches
    -- the same text in front stands for the same items in front
    have hmem {row : List (List Char)} (hrow : row <+: items) :
        ∀ item ∈ first :: row, IsItem item :=
      fun item hitem => hitems item (((List.prefix_cons_inj first).mpr hrow).subset hitem)
    have hsame := congrArg (Text.splitBy (· == separator)) hlead
    rw [splitBy_items (hmem ⟨_, hfound.items_eq.symm⟩) hseparator (List.cons_ne_nil first front),
      splitBy_items (hmem ⟨_, hin.items_eq.symm⟩) hseparator (List.cons_ne_nil first lead)] at hsame
    obtain rfl := (List.cons.inj hsame).2
    have hyears := hfound.items_eq.symm.trans hin.items_eq
    rw [List.append_cancel_left_eq] at hyears
    obtain ⟨rfl, -⟩ := List.cons.inj hyears
    rw [cutAtYear, hfind, cutItems, hsome]
    simp [Regex.Found.group?, Trace.group?]

end Cut

end MediaShelf.Search
