import MediaShelf.Pattern.Matcher
import MediaShelf.Proofs.Regex.Table

/-!
# Texts of tokens

What the expression of a token matches, said without expressions.

## Main definitions

* `IsDigits`, `IsMoreNumbers` — digits, and further numbers behind ampersands
* `Token.Accepts` — the texts that a token stands for
* `groupTrace` — the trace of a text as a group for a token

## Main results

* `reads_tokenNode` — the expression of a token matches these texts
* `reads_token_cons`, `reads_literal_cons` — what a row of segments matches first
-/

namespace MediaShelf.Pattern

open Regex (Node Rounds Trace)

/-- The text consists of decimal digits of any script, at least one. -/
def IsDigits (text : List Char) : Prop := text ≠ [] ∧ ∀ c ∈ text, Text.isDecimalDigit c

/-- The text consists of numbers, each behind an ampersand with any blanks around it. -/
inductive IsMoreNumbers : List Char → Prop
  | nil : IsMoreNumbers []
  | cons {left right number rest : List Char} : (∀ c ∈ left, Text.isBlank c) →
      (∀ c ∈ right, Text.isBlank c) → IsDigits number → IsMoreNumbers rest →
      IsMoreNumbers (left ++ '&' :: right ++ number ++ rest)

/-- The texts that a token stands for. -/
def Token.Accepts : Token → List Char → Prop
  | .season, text | .part, text => IsDigits text
  | .year, text => text.length = 4 ∧ ∀ c ∈ text, Text.isDecimalDigit c
  | .episode, text => ∃ number more, IsDigits number ∧ IsMoreNumbers more ∧ text = number ++ more
  | .extension, text => text ≠ [] ∧ ∀ c ∈ text, c ≠ '.' ∧ c ≠ '/'
  | .showName, text | .title, text | .id, text => ∀ c ∈ text, c ≠ '/'

theorem isDecimalDigit_of_isDigit {c : Char} (h : c.isDigit) : Text.isDecimalDigit c := by
  simp [Text.isDecimalDigit, h]

/-- No digit of any script is a blank. -/
theorem isBlank_of_isDecimalDigit {c : Char} (h : Text.isDecimalDigit c) :
    Text.isBlank c = false := by
  have hall : [0x09, 0x0A, 0x0B, 0x0C, 0x0D, 0x20, 0x85, 0xA0, 0x1680, 0x2000, 0x2001, 0x2002,
      0x2003, 0x2004, 0x2005, 0x2006, 0x2007, 0x2008, 0x2009, 0x200A, 0x2028, 0x2029, 0x202F,
      0x205F, 0x3000].all fun n => !Text.isDecimalDigit (Char.ofNat n) := by decide +kernel
  by_contra hblank
  have hmem := List.all_eq_true.mp hall c.toNat (by
    simp only [Text.isBlank, Bool.or_eq_true, Bool.and_eq_true, decide_eq_true_eq, beq_iff_eq,
      Bool.not_eq_false] at hblank
    simp only [List.mem_cons, List.not_mem_nil, or_false]
    omega)
  rw [Char.ofNat_toNat, h] at hmem
  cases hmem

variable {before : Option Char} {after : List Char} {trace : Trace Token}

theorem reads_digits :
    digits.Reads before after trace ↔ ∃ text, IsDigits text ∧ trace = text.map .char := by
  rw [digits, Node.reads_plus]
  simp only [IsDigits, and_assoc]

/-- A number of characters that are all accepted. -/
theorem reads_times {accepts : Char → Bool} {n : Nat} :
    (Node.times n (.one accepts)).Reads before after trace ↔
      ∃ text : List Char, (text.length = n ∧ ∀ c ∈ text, accepts c) ∧ trace = text.map .char := by
  induction n generalizing before trace with
  | zero => simp [Node.times, Node.Reads]
  | succ n ih =>
    refine Node.reads_times_succ.trans ?_
    constructor
    · rintro ⟨_, _, ⟨c, hc, rfl⟩, hrest, rfl⟩
      obtain ⟨text, ⟨hlength, htext⟩, rfl⟩ := ih.mp hrest
      refine ⟨c :: text, ⟨by simp [hlength], fun d hd => ?_⟩, rfl⟩
      rcases List.mem_cons.mp hd with rfl | hd
      · exact hc
      · exact htext d hd
    · rintro ⟨text, ⟨hlength, htext⟩, rfl⟩
      obtain ⟨c, text, rfl⟩ := List.exists_cons_of_length_eq_add_one hlength
      exact ⟨[.char c], text.map .char, ⟨c, htext c List.mem_cons_self, rfl⟩,
        ih.mpr ⟨text, ⟨by simpa using hlength,
          fun d hd => htext d (List.mem_cons_of_mem _ hd)⟩, rfl⟩, rfl⟩

/-- An ampersand with blanks around it. -/
theorem reads_ampersand : ampersand.Reads before after trace ↔
    ∃ left right : List Char, (∀ c ∈ left, Text.isBlank c) ∧ (∀ c ∈ right, Text.isBlank c) ∧
      trace = (left ++ '&' :: right).map .char := by
  constructor
  · rintro ⟨_, _, ⟨left, hleft, rfl⟩, ⟨_, _, ⟨c, hc, rfl⟩, ⟨right, hright, rfl⟩, rfl⟩, rfl⟩
    obtain rfl := beq_iff_eq.mp hc
    exact ⟨left, right, hleft, hright, by simp⟩
  · rintro ⟨left, right, hleft, hright, rfl⟩
    exact ⟨left.map .char, ('&' :: right).map .char, ⟨left, hleft, rfl⟩,
      ⟨[.char '&'], right.map .char, ⟨'&', by decide, rfl⟩, ⟨right, hright, rfl⟩, rfl⟩, by simp⟩

/-- Further numbers are rounds of an ampersand and a number. -/
theorem rounds_numbers :
    Rounds (Node.seq ampersand digits).Reads before after trace ↔
      ∃ more, IsMoreNumbers more ∧ trace = more.map .char := by
  -- rounds on the one side are numbers on the other, so each induction follows the other's cases
  constructor
  · intro h
    induction h with
    | nil => exact ⟨[], .nil, rfl⟩
    | cons hround _ ih =>
      obtain ⟨_, _, hampersand, hnumber, rfl⟩ := hround
      obtain ⟨left, right, hleft, hright, rfl⟩ := reads_ampersand.mp hampersand
      obtain ⟨number, hdigits, rfl⟩ := reads_digits.mp hnumber
      obtain ⟨more, hmore, rfl⟩ := ih
      exact ⟨_, .cons hleft hright hdigits hmore, by simp⟩
  · rintro ⟨more, hmore, rfl⟩
    induction hmore generalizing before with
    | nil => exact .nil
    | @cons left right number rest hleft hright hnumber hrest ih =>
      rw [List.map_append]
      refine .cons ⟨(left ++ '&' :: right).map .char, number.map .char, ?_, ?_, ?_⟩ ih
      · exact reads_ampersand.mpr ⟨left, right, hleft, hright, rfl⟩
      · exact reads_digits.mpr ⟨number, hnumber, rfl⟩
      · rw [List.map_append]

/-- The expression of a token matches the texts that the token stands for. -/
theorem reads_tokenNode {kind : Token} : (tokenNode kind).Reads before after trace ↔
    ∃ text, kind.Accepts text ∧ trace = text.map .char := by
  have hname : (Node.many true (· != '/') : Node Token).Reads before after trace ↔
      ∃ text : List Char, (∀ c ∈ text, c ≠ '/') ∧ trace = text.map .char := by
    simp [Node.Reads]
  cases kind with
  | showName => exact hname
  | title => exact hname
  | id => exact hname
  | season => exact reads_digits
  | part => exact reads_digits
  | year => exact reads_times
  | extension =>
    refine Node.reads_plus.trans ?_
    simp [Token.Accepts, and_assoc]
  | episode =>
    constructor
    · rintro ⟨_, _, hnumber, hmore, rfl⟩
      obtain ⟨number, hdigits, rfl⟩ := reads_digits.mp hnumber
      obtain ⟨more, hrounds, rfl⟩ := rounds_numbers.mp hmore
      exact ⟨number ++ more, ⟨number, more, hdigits, hrounds, rfl⟩, by simp⟩
    · rintro ⟨_, ⟨number, more, hdigits, hmore, rfl⟩, rfl⟩
      exact ⟨number.map .char, more.map .char, reads_digits.mpr ⟨number, hdigits, rfl⟩,
        rounds_numbers.mpr ⟨more, hmore, rfl⟩, by simp⟩

/-! ### Rows of segments -/

/-- A trace that passes over a text as a group for a token. -/
def groupTrace (kind : Token) (text : List Char) : Trace Token :=
  .enter kind :: (text.map .char ++ [.leave kind])

variable {rest : List Segment}

/-- A row that starts with a token matches a text of the token first. -/
theorem reads_token_cons {kind : Token}
    (h : (node (.token kind :: rest)).Reads before after trace) :
    ∃ text behind back, kind.Accepts text ∧ (node rest).Reads behind after back ∧
      trace = groupTrace kind text ++ back := by
  obtain ⟨_, back, ⟨_, hinner, rfl⟩, hback, rfl⟩ := h
  obtain ⟨text, htext, rfl⟩ := reads_tokenNode.mp hinner
  exact ⟨text, _, back, htext, hback, rfl⟩

/-- A row that starts with a literal matches that text first, in any letter case. -/
theorem reads_literal_cons {text : List Char}
    (h : (node (.literal text :: rest)).Reads before after trace) :
    ∃ run behind back, List.Forall₂ (fun c d => Text.sameLetter c d) text run ∧
      (node rest).Reads behind after back ∧ trace = run.map .char ++ back := by
  obtain ⟨_, back, hfront, hback, rfl⟩ := h
  obtain ⟨run, hrun, rfl⟩ := Node.reads_text.mp hfront
  exact ⟨run, _, back, hrun, hback, rfl⟩

@[simp] theorem text_groupTrace (kind : Token) (text : List Char) :
    Trace.text (groupTrace kind text) = text := by
  simp [groupTrace]

@[simp] theorem group?_groupTrace (kind other : Token) (text : List Char) (back : Trace Token) :
    Trace.group? kind (groupTrace other text ++ back) =
      if other = kind then some text else Trace.group? kind back := by
  split
  · rename_i hsame
    subst hsame
    exact Trace.group?_group text back
  · rename_i hne
    exact Trace.group?_other hne text back

@[simp] theorem after_groupTrace (kind other : Token) (text : List Char) (back : Trace Token) :
    Trace.after kind (groupTrace other text ++ back) =
      if other = kind then Trace.text back else Trace.after kind back := by
  split
  · rename_i hsame
    subst hsame
    exact Trace.after_group text back
  · rename_i hne
    exact Trace.after_other hne text back

end MediaShelf.Pattern
