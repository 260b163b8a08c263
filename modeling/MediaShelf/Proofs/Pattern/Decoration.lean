import MediaShelf.Pattern.Decoration
import MediaShelf.Proofs.Pattern.Token
import MediaShelf.Proofs.Regex.Find
import MediaShelf.Proofs.Text.Numeral

/-!
# What is taken off titles

Decorations are cut out of a title and leave a space, so that nothing else comes into it, and a year
that was found is one of the twentieth or twenty-first century.

## Main definitions

* `IsCenturyYear` — four digits, the first two of which are 19 or 20

## Main results

* `isCenturyYear_decimal_iff` — the numbers of these years
* `isCenturyYear_of_reads` — what the expression of a year matches
* `mem_title_stripDecorations` — the characters of a title without its decorations
* `isCenturyYear_stripDecorations` — the year that was found on a title
* `stripPart_eq_self` — a title without a part number stays as it is
-/

namespace MediaShelf.Pattern

open Regex (Node Trace)

variable {title year : List Char} {c : Char} {trace : Trace Token}

/-- The text is a year of the twentieth or twenty-first century, whose last two digits may be those
of any script. -/
def IsCenturyYear (text : List Char) : Prop :=
  ∃ tens : List Char, (text = '1' :: '9' :: tens ∨ text = '2' :: '0' :: tens) ∧
    tens.length = 2 ∧ ∀ c ∈ tens, Text.isDecimalDigit c

/-- Such a year is a text of the token for years. -/
theorem IsCenturyYear.accepts (h : IsCenturyYear year) : Token.year.Accepts year := by
  obtain ⟨tens, hyear, hlength, hdigits⟩ := h
  have hones : ∀ c ∈ ['1', '9', '2', '0'], Text.isDecimalDigit c :=
    List.all_eq_true.mp (by decide)
  rcases hyear with rfl | rfl <;> refine ⟨by simp [hlength], fun c hc => ?_⟩
  all_goals
    rcases List.mem_cons.mp hc with rfl | hc
    · exact hones _ (by simp)
    · rcases List.mem_cons.mp hc with rfl | hc
      · exact hones _ (by simp)
      · exact hdigits c hc

/-- The years of the two centuries are the numbers from 1900 to 2099. -/
theorem isCenturyYear_decimal_iff {n : Nat} :
    IsCenturyYear (Text.decimal n) ↔ 1900 ≤ n ∧ n ≤ 2099 := by
  constructor
  · intro h
    obtain ⟨hlow, -⟩ := Text.length_decimal_eq_four_iff.mp h.accepts.1
    obtain ⟨tens, hyear, hlength, -⟩ := h
    obtain ⟨a, b, hdigits⟩ := Text.exists_decimal_eq_hundreds (n := n) (by omega)
    have hhundreds : n / 100 = 19 ∨ n / 100 = 20 := by
      rw [hdigits] at hyear
      rcases hyear with hyear | hyear
      · exact .inl (Text.decimal_injective
          (List.append_inj_left' (show _ = ['1', '9'] ++ tens from hyear) hlength.symm))
      · exact .inr (Text.decimal_injective
          (List.append_inj_left' (show _ = ['2', '0'] ++ tens from hyear) hlength.symm))
    omega
  · rintro ⟨hlow, hhigh⟩
    obtain ⟨a, b, hdigits⟩ := Text.exists_decimal_eq_hundreds (n := n) (by omega)
    have htens : ∀ c ∈ [a, b], Text.isDecimalDigit c := fun c hc =>
      isDecimalDigit_of_isDigit (Text.isDigit_of_mem_decimal (n := n) (by
        rw [hdigits]
        exact List.mem_append_right _ hc))
    refine ⟨[a, b], ?_, rfl, htens⟩
    rw [hdigits]
    rcases (by omega : n / 100 = 19 ∨ n / 100 = 20) with heq | heq <;> rw [heq]
    · exact .inl rfl
    · exact .inr rfl

/-- What the expression of a year matches is such a year. -/
theorem isCenturyYear_of_reads {before : Option Char} {after : List Char}
    (h : centuryYear.Reads before after trace) :
    ∃ text, IsCenturyYear text ∧ trace = text.map .char := by
  obtain ⟨_, _, hcentury, htens, rfl⟩ := h
  obtain ⟨tens, ⟨hlength, hdigits⟩, rfl⟩ := reads_times.mp htens
  rcases hcentury with h | h
  · obtain ⟨_, _, ⟨first, hfirst, rfl⟩, ⟨second, hsecond, rfl⟩, rfl⟩ := h
    obtain rfl := beq_iff_eq.mp hfirst
    obtain rfl := beq_iff_eq.mp hsecond
    exact ⟨'1' :: '9' :: tens, ⟨tens, .inl rfl, hlength, hdigits⟩, rfl⟩
  · obtain ⟨_, _, ⟨first, hfirst, rfl⟩, ⟨second, hsecond, rfl⟩, rfl⟩ := h
    obtain rfl := beq_iff_eq.mp hfirst
    obtain rfl := beq_iff_eq.mp hsecond
    exact ⟨'2' :: '0' :: tens, ⟨tens, .inr rfl, hlength, hdigits⟩, rfl⟩

/-- The group of a bracketed year is such a year. -/
theorem isCenturyYear_of_yearDecoration {before : Option Char} {after : List Char}
    (h : yearDecoration.Reads before after trace)
    (hyear : Trace.group? .year trace = some year) : IsCenturyYear year := by
  obtain ⟨_, _, ⟨bracket, -, rfl⟩, ⟨_, back, ⟨_, hinner, rfl⟩, -, rfl⟩, rfl⟩ := h
  obtain ⟨text, htext, rfl⟩ := isCenturyYear_of_reads hinner
  have hgroup : Trace.group? Token.year ([.char bracket] ++
      (.enter .year :: (text.map .char ++ [.leave .year]) ++ back)) = some text :=
    Trace.group?_group text back
  rw [hgroup] at hyear
  exact Option.some.inj hyear ▸ htext

/-- Nothing but a space comes into a text out of which a match is cut. -/
theorem mem_of_mem_cut {node : Node Token} {found : Regex.Found Token}
    (hfound : node.find? title = some found) (h : c ∈ found.before ++ ' ' :: found.rest) :
    c ∈ title ∨ c = ' ' := by
  obtain ⟨htitle, -⟩ := Node.find?_eq_some hfound
  rw [htitle]
  simp only [List.mem_append, List.mem_cons] at h ⊢
  tauto

theorem mem_stripYear (h : c ∈ (stripYear title).1) : c ∈ title ∨ c = ' ' := by
  unfold stripYear at h
  split at h
  · exact .inl h
  · rename_i found hfound
    split at h
    · exact .inl h
    · exact mem_of_mem_cut hfound h

theorem isCenturyYear_stripYear (h : (stripYear title).2 = some year) :
    IsCenturyYear year ∧ ∀ c ∈ year, c ∈ title := by
  unfold stripYear at h
  split at h
  · cases h
  · rename_i found hfound
    split at h
    · cases h
    · rename_i text htext
      obtain rfl := Option.some.inj h
      obtain ⟨htitle, hreads⟩ := Node.find?_eq_some hfound
      refine ⟨isCenturyYear_of_yearDecoration hreads htext, fun c hc => ?_⟩
      rw [htitle]
      simp [Trace.mem_text_of_group? htext hc]

theorem mem_stripPart (h : c ∈ (stripPart title).1) : c ∈ title ∨ c = ' ' := by
  unfold stripPart at h
  split at h
  · exact .inl h
  · rename_i found hfound
    split at h
    · exact .inl h
    · exact mem_of_mem_cut hfound h

/-- A title without its decorations holds characters of the title and spaces. -/
theorem mem_title_stripDecorations (h : c ∈ (stripDecorations title).title) :
    c ∈ title ∨ c = ' ' := by
  rcases mem_stripPart h with h | h
  · exact mem_stripYear h
  · exact .inr h

/-- The year on a title is one of the last two centuries, and stands in the title. -/
theorem isCenturyYear_stripDecorations (h : (stripDecorations title).year = some year) :
    IsCenturyYear year ∧ ∀ c ∈ year, c ∈ title :=
  isCenturyYear_stripYear h

/-! ### Titles that keep everything -/

/-- What a bracketed year looks like. -/
theorem text_of_yearDecoration {before : Option Char} {after : List Char}
    (h : yearDecoration.Reads before after trace) :
    ∃ opening year closing, opening ∈ ['(', '['] ∧ IsCenturyYear year ∧ closing ∈ [')', ']'] ∧
      Trace.text trace = opening :: (year ++ [closing]) := by
  obtain ⟨_, _, ⟨opening, hopening, rfl⟩, ⟨_, _, ⟨_, hinner, rfl⟩, ⟨closing, hclosing, rfl⟩, rfl⟩,
    rfl⟩ := h
  obtain ⟨year, hyear, rfl⟩ := isCenturyYear_of_reads hinner
  refine ⟨opening, year, closing, by simpa using hopening, hyear, by simpa using hclosing, ?_⟩
  simp [Trace.text]

/-- A title on which no part number is found stays as it is. -/
theorem stripPart_eq_self (h : (stripPart title).2 = none) : stripPart title = (title, none) := by
  unfold stripPart at h ⊢
  cases hfind : partDecoration.find? title with
  | none => rfl
  | some found =>
    rw [hfind] at h
    dsimp only at h ⊢
    cases hnumber : (found.group? .part).bind Text.readWord? with
    | none => rfl
    | some part =>
      rw [hnumber] at h
      cases h

end MediaShelf.Pattern
