import MediaShelf.Proofs.Pattern.FilmPath
import MediaShelf.Proofs.Text.Words

/-!
# Marks behind titles

The usual pattern of films puts a year and a part number behind a title. Where they are read as part
of the title, most of them are taken off as decorations again. What stays are years of other
centuries and part numbers with more than two digits, and these stay word by word.

## Main definitions

* `numberMark` — a number in brackets, as years and copies have it
* `yearText`, `partText` — the marks that the pattern renders
* `IsQuiet` — marks in which no part number is read
* `isTitleYear`, `isTitlePart`, `keptWords` — what is taken off and what stays

## Main results

* `holdsBracketedYear_numberMark_iff` — the numbers in brackets that are bracketed years
* `exists_stripYear_mark`, `exists_stripPart_mark` — one mark behind a title
* `stripDecorations_marks` — all that is taken off a title with its marks
-/

namespace MediaShelf.Pattern

variable {context : Context} {title rest text mark : List Char} {k : Nat}

/-- A number in brackets behind a space, as copies of a file have it. -/
def numberMark (k : Nat) : List Char := [' ', '('] ++ Text.decimal k ++ [')']

theorem numberMark_eq (k : Nat) : numberMark k = ' ' :: '(' :: (Text.decimal k ++ [')']) := by
  simp [numberMark]

/-! ### Marks behind titles -/

/-- Text that may stand behind a title without changing whether it holds a part number. -/
structure IsQuiet (mark : List Char) : Prop where
  apart : ∀ c ∈ mark.head?, c = ' '
  clean : ∀ c ∈ mark, Text.isClean c
  no_number : ∀ c ∈ (mark.dropWhile isPartGap).head?, Text.isDecimalDigit c = false
  no_letter : ∀ c ∈ mark, Text.sameLetter 'p' c = false ∧ Text.sameLetter 'c' c = false

theorem isQuiet_nil : IsQuiet [] := by
  constructor <;> simp

theorem isQuiet_spaces : IsQuiet [' ', ' '] where
  apart := by simp
  clean := List.all_eq_true.mp (by decide)
  no_number := by
    have hnothing : [' ', ' '].dropWhile isPartGap = [] := rfl
    simp [hnothing]
  no_letter := by
    have hall : [' ', ' '].all fun c => !Text.sameLetter 'p' c && !Text.sameLetter 'c' c := by
      decide
    simpa using List.all_eq_true.mp hall

theorem isQuiet_numberMark (k : Nat) : IsQuiet (numberMark k) := by
  have hmem {c : Char} (hc : c ∈ numberMark k) : c ∈ [' ', '(', ')'] ∨ c.isDigit := by
    simp only [numberMark, List.mem_append, List.mem_cons, List.not_mem_nil, or_false] at hc ⊢
    rcases hc with ((rfl | rfl) | hc) | rfl
    · simp
    · simp
    · exact .inr (Text.isDigit_of_mem_decimal hc)
    · simp
  constructor
  · simp [numberMark]
  · intro c hc
    rcases hmem hc with hc | hdigit
    · exact List.all_eq_true.mp (by decide : [' ', '(', ')'].all Text.isClean) c hc
    · simp [Text.isClean, Char.isAlphanum, hdigit]
  · rw [numberMark_eq, List.dropWhile_cons_of_pos isPartGap_space,
      List.dropWhile_cons_of_neg (by decide)]
    rintro _ ⟨⟩
    decide
  · intro c hc
    rcases hmem hc with hc | hdigit
    · have hall : [' ', '(', ')'].all fun c =>
          !Text.sameLetter 'p' c && !Text.sameLetter 'c' c := by decide
      simpa using List.all_eq_true.mp hall c hc
    · exact ⟨Text.not_sameLetter_of_isDigit (by decide) hdigit,
        Text.not_sameLetter_of_isDigit (by decide) hdigit⟩

/-- A quiet mark puts no part number behind a title. -/
theorem not_holdsPart_append (h : ¬HoldsPart text) (hmark : IsQuiet mark) :
    ¬HoldsPart (text ++ mark) := by
  cases mark with
  | nil => rwa [List.append_nil]
  | cons c mark =>
    obtain rfl := hmark.apart c rfl
    have hnumber := hmark.no_number
    rw [List.dropWhile_cons_of_pos isPartGap_space] at hnumber
    rw [holdsPart_append_iff hnumber, not_or]
    exact ⟨h, not_holdsPart_of_letters hmark.no_letter⟩

/-- Behind a title a number in brackets is a bracketed year if it is one from 1900 to 2099. -/
theorem holdsBracketedYear_numberMark_iff :
    HoldsBracketedYear (numberMark k) ↔ 1900 ≤ k ∧ k ≤ 2099 := by
  rw [← isCenturyYear_decimal_iff]
  constructor
  · intro h
    obtain ⟨year, hyear, -, hmark⟩ := h.exists_infix (isQuiet_numberMark k).clean
    have hclosing {digits : List Char} (hdigits : IsDigits digits) : ')' ∉ digits := fun hmem =>
      absurd (hdigits.2 _ hmem) (by decide)
    rw [numberMark_eq, List.infix_cons_iff, List.infix_cons_iff] at hmark
    rcases hmark with ⟨more, hmore⟩ | ⟨more, hmore⟩ | hmark
    · simp at hmore
    · obtain ⟨rfl, -⟩ := Text.split_unique (hclosing ⟨List.ne_nil_of_length_pos
        (by rw [hyear.accepts.1]; decide), hyear.isDecimalDigit⟩) (hclosing (isDigits_decimal k))
        (show year ++ ')' :: more = Text.decimal k ++ ')' :: [] by simpa using hmore)
      exact hyear
    · -- the only bracket that opens stands in front of the number
      have hmem := hmark.subset List.mem_cons_self
      simp [mt Text.isDigit_of_mem_decimal] at hmem
  · intro h
    exact ⟨'(', _, ')', by simp, h, by simp, ⟨[' '], [], by simp [numberMark]⟩⟩

/-- Texts that meet at a space hold the bracketed years of both. -/
theorem holdsBracketedYear_append (hapart : ∀ c ∈ rest.head?, c = ' ') :
    HoldsBracketedYear (text ++ rest) ↔ HoldsBracketedYear text ∨ HoldsBracketedYear rest := by
  have hnil : ¬HoldsBracketedYear [] := not_holdsBracketedYear_of_free (by simp) (by simp)
  cases rest with
  | nil => simp [hnil]
  | cons c rest =>
    obtain rfl := hapart c rfl
    have hrest : HoldsBracketedYear (' ' :: rest) ↔ _ :=
      @holdsBracketedYear_append_iff [] rest
    rw [holdsBracketedYear_append_iff, hrest, or_iff_right hnil]

theorem isBlank_of_mem_decimal {n : Nat} {c : Char} (h : c ∈ Text.decimal n) :
    Text.isBlank c = false :=
  isBlank_of_isDecimalDigit (isDecimalDigit_of_isDigit (Text.isDigit_of_mem_decimal h))

theorem words_numberMark (k : Nat) :
    Text.words (numberMark k) = ['(' :: (Text.decimal k ++ [')'])] := by
  have hword := Text.words_append_cons (c := ' ') rfl [] ('(' :: (Text.decimal k ++ [')']))
  rw [List.nil_append] at hword
  rw [numberMark_eq, hword, @Text.words_of_free ('(' :: (Text.decimal k ++ [')'])) (by simp)]
  · rfl
  · intro c hc
    simp only [List.mem_cons, List.mem_append, List.not_mem_nil, or_false] at hc
    rcases hc with rfl | hc | rfl
    · rfl
    · exact isBlank_of_mem_decimal hc
    · rfl

/-! ### What is taken off -/

/-- A year that titles can carry. -/
def isTitleYear (year : UInt32) : Bool := 1900 ≤ year && year ≤ 2099

/-- A part number that titles can carry. -/
def isTitlePart (part : UInt32) : Bool := part ≤ 99

/-- The mark of a year. -/
def yearText (year : Option UInt32) : List Char :=
  (year.map fun year => numberMark year.toNat).getD []

/-- The mark of a part number. -/
def partText (part : Option UInt32) : List Char :=
  (part.map fun part => writtenPart (Text.decimal part.toNat)).getD []

theorem render_yearGroup : yearGroup.render context = yearText context.year := by
  cases hyear : context.year <;>
    simp [yearGroup, yearText, Segment.render, render, Context.resolves, Context.value?, hyear,
      numberMark]

theorem render_partGroup : partGroup.render context = partText context.part := by
  cases hpart : context.part <;>
    simp [partGroup, partText, Segment.render, render, Context.resolves, Context.value?, hpart,
      writtenPart]

theorem isTitleYear_iff {year : UInt32} :
    isTitleYear year ↔ 1900 ≤ year.toNat ∧ year.toNat ≤ 2099 := by
  simp [isTitleYear, UInt32.le_iff_toNat_le]

/-- The year in brackets behind a title is taken off, if titles can carry it. -/
theorem exists_stripYear_mark (htitle : ¬HoldsBracketedYear title)
    (hrest : ¬HoldsBracketedYear rest) (hapart : ∀ c ∈ rest.head?, c = ' ') (year : Option UInt32) :
    ∃ left, stripYear (title ++ (yearText year ++ rest)) = (title ++ (left ++ rest),
        (year.filter isTitleYear).map fun year => Text.decimal year.toNat) ∧
      IsQuiet left ∧ Text.words left =
        ((year.filter (! isTitleYear ·)).map fun year =>
          '(' :: (Text.decimal year.toNat ++ [')'])).toList := by
  cases year with
  | none =>
    refine ⟨[], stripYear_eq_self ?_, isQuiet_nil, rfl⟩
    exact fun h => ((holdsBracketedYear_append hapart).mp h).elim htitle hrest
  | some year =>
    have hmark : yearText (some year) = numberMark year.toNat := rfl
    rw [hmark]
    by_cases hcarried : isTitleYear year
    · have hstrip := stripYear_behind htitle (isCenturyYear_decimal_iff.mpr
        (isTitleYear_iff.mp hcarried)) rest
      refine ⟨[' ', ' '], ?_, isQuiet_spaces, ?_⟩
      · simpa [numberMark, Option.filter, hcarried] using hstrip
      · have hnone : (some year).filter (! isTitleYear ·) = none := by
          simp [Option.filter, hcarried]
        rw [hnone]
        rfl
    · have hfree : ¬HoldsBracketedYear (numberMark year.toNat) := fun h =>
        hcarried (isTitleYear_iff.mpr (holdsBracketedYear_numberMark_iff.mp h))
      refine ⟨numberMark year.toNat, ?_, isQuiet_numberMark _, ?_⟩
      · have hself : ¬HoldsBracketedYear (title ++ (numberMark year.toNat ++ rest)) := by
          rw [← List.append_assoc, holdsBracketedYear_append hapart,
            holdsBracketedYear_append (isQuiet_numberMark _).apart]
          tauto
        simp [stripYear_eq_self hself, Option.filter, hcarried]
      · simp [words_numberMark, Option.filter, hcarried]

theorem isTitlePart_iff {part : UInt32} :
    isTitlePart part ↔ (Text.decimal part.toNat).length ≤ 2 := by
  have hlength : (Text.decimal part.toNat).length ≤ 2 ↔ part.toNat < 10 ^ 2 :=
    Nat.length_toDigits_le_iff (by decide) (by decide)
  rw [hlength]
  simp [isTitlePart, UInt32.le_iff_toNat_le]
  omega

theorem asciiDigits_decimal (n : Nat) : Text.AsciiDigits (Text.decimal n) :=
  ⟨Text.decimal_ne_nil n, fun _ => Text.isDigit_of_mem_decimal⟩

theorem isClean_writtenPart (n : Nat) : ∀ c ∈ writtenPart (Text.decimal n), Text.isClean c := by
  intro c hc
  have hmem : c ∈ [' ', 'P', 'a', 'r', 't', ' '] ∨ c ∈ Text.decimal n :=
    List.mem_append.mp (show c ∈ [' ', 'P', 'a', 'r', 't', ' '] ++ Text.decimal n from hc)
  rcases hmem with hc | hc
  · exact List.all_eq_true.mp (by decide : [' ', 'P', 'a', 'r', 't', ' '].all Text.isClean) c hc
  · simp [Text.isClean, Char.isAlphanum, Text.isDigit_of_mem_decimal hc]

theorem isClean_yearText (year : Option UInt32) : ∀ c ∈ yearText year, Text.isClean c := by
  cases year with
  | none => simp [yearText]
  | some year => exact (isQuiet_numberMark year.toNat).clean

theorem isClean_partText (part : Option UInt32) : ∀ c ∈ partText part, Text.isClean c := by
  cases part with
  | none => simp [partText]
  | some part => exact isClean_writtenPart part.toNat

theorem words_writtenPart (n : Nat) :
    Text.words (writtenPart (Text.decimal n)) = [['P', 'a', 'r', 't'], Text.decimal n] := by
  have hspace := Text.words_append_cons (c := ' ') rfl [' ', 'P', 'a', 'r', 't'] (Text.decimal n)
  have hword : Text.words [' ', 'P', 'a', 'r', 't'] = [['P', 'a', 'r', 't']] := by decide
  rw [Text.words_of_free (Text.decimal_ne_nil n) fun _ => isBlank_of_mem_decimal, hword] at hspace
  exact hspace

/-- The number of a part behind a title is taken off, if titles can carry it. -/
theorem exists_stripPart_mark (htext : ∀ c ∈ text, Text.isClean c) (h : ¬HoldsPart text)
    (hmark : IsQuiet mark) (part : Option UInt32) :
    ∃ left, stripPart (text ++ (partText part ++ mark)) =
        (text ++ (left ++ mark), part.filter isTitlePart) ∧
      (∀ c ∈ left, Text.isClean c) ∧ (∀ c ∈ left.head?, c = ' ') ∧ Text.words left =
        ((part.filter (! isTitlePart ·)).map fun part =>
          [['P', 'a', 'r', 't'], Text.decimal part.toNat]).getD [] := by
  cases part with
  | none =>
    have hclean : ∀ c ∈ text ++ mark, Text.isClean c :=
      List.forall_mem_append.mpr ⟨htext, hmark.clean⟩
    refine ⟨[], stripPart_eq_self ((part_stripPart_eq_none_iff hclean).mpr
      (not_holdsPart_append h hmark)), by simp, by simp, rfl⟩
  | some part =>
    have hclean : ∀ c ∈ text ++ (writtenPart (Text.decimal part.toNat) ++ mark), Text.isClean c :=
      List.forall_mem_append.mpr ⟨htext,
        List.forall_mem_append.mpr ⟨isClean_writtenPart _, hmark.clean⟩⟩
    have hpart : partText (some part) = writtenPart (Text.decimal part.toNat) := rfl
    rw [hpart]
    by_cases hcarried : isTitlePart part
    · obtain ⟨n, hn, hstrip⟩ := stripPart_behind hclean h (asciiDigits_decimal _)
        (isTitlePart_iff.mp hcarried) hmark.apart
      obtain rfl : part = n := by
        have hvalue := hn.value
        rw [Text.decimal, Nat.ofDigitChars_ten_toDigits] at hvalue
        exact UInt32.toNat_inj.mp hvalue
      refine ⟨[' '], ?_, by simp; decide, by simp, ?_⟩
      · simpa [Option.filter, hcarried] using hstrip
      · have hnone : (some part).filter (! isTitlePart ·) = none := by
          simp [Option.filter, hcarried]
        rw [hnone]
        rfl
    · have hlong : 2 < (Text.decimal part.toNat).length :=
        Nat.lt_of_not_le fun hshort => hcarried (isTitlePart_iff.mpr hshort)
      have hnone : ¬HoldsPart (text ++ (writtenPart (Text.decimal part.toNat) ++ mark)) := by
        rw [writtenPart, List.cons_append, holdsPart_append_iff, not_or]
        · exact ⟨h, not_holdsPart_writtenPart (asciiDigits_decimal _) hlong hmark.apart
            hmark.no_letter⟩
        · rintro _ ⟨⟩
          decide
      refine ⟨writtenPart (Text.decimal part.toNat), ?_, isClean_writtenPart _,
        by simp [writtenPart], ?_⟩
      · rw [stripPart_eq_self ((part_stripPart_eq_none_iff hclean).mpr hnone)]
        simp [Option.filter, hcarried]
      · simp [words_writtenPart, Option.filter, hcarried]

/-- The words of marks that stay behind a title. -/
def keptWords (context : Context) : List (List Char) :=
  ((context.year.filter (! isTitleYear ·)).map fun year =>
      '(' :: (Text.decimal year.toNat ++ [')'])).toList ++
    ((context.part.filter (! isTitlePart ·)).map fun part =>
      [['P', 'a', 'r', 't'], Text.decimal part.toNat]).getD []

/-- From a title with its marks the year and the part number are taken that titles can carry. -/
theorem stripDecorations_marks (htitle : ∀ c ∈ title, Text.isClean c)
    (hundated : ¬HoldsBracketedYear title) (hunmarked : ¬HoldsPart title) (hmark : IsQuiet mark)
    (hnumber : ¬HoldsBracketedYear mark) (context : Context) :
    ∃ bare, stripDecorations (title ++ (yearText context.year ++ (partText context.part ++ mark))) =
        ⟨bare, (context.year.filter isTitleYear).map fun year => Text.decimal year.toNat,
          context.part.filter isTitlePart⟩ ∧ (∀ c ∈ bare, Text.isClean c) ∧
      Text.words bare = Text.words title ++ keptWords context ++ Text.words mark := by
  have hpart : ¬HoldsBracketedYear (partText context.part ++ mark) := by
    rw [holdsBracketedYear_append hmark.apart, not_or]
    refine ⟨?_, hnumber⟩
    cases context.part with
    | none => exact not_holdsBracketedYear_of_free (by simp [partText]) (by simp [partText])
    | some part =>
      refine not_holdsBracketedYear_of_free ?_ ?_ <;>
        simp [partText, writtenPart, mt Text.isDigit_of_mem_decimal]
  have hapart : ∀ c ∈ (partText context.part ++ mark).head?, c = ' ' := by
    cases context.part with
    | none => exact hmark.apart
    | some part => simp [partText, writtenPart]
  obtain ⟨left, hyear, hleft, hyearWords⟩ :=
    exists_stripYear_mark hundated hpart hapart context.year
  have hclear : ∀ c ∈ title ++ left, Text.isClean c :=
    List.forall_mem_append.mpr ⟨htitle, hleft.clean⟩
  obtain ⟨behind, hbehind, hclean, hspace, hpartWords⟩ :=
    exists_stripPart_mark hclear (not_holdsPart_append hunmarked hleft) hmark context.part
  rw [List.append_assoc] at hbehind
  refine ⟨title ++ left ++ (behind ++ mark), ?_, ?_, ?_⟩
  · simp only [stripDecorations, hyear, hbehind]
  · exact List.forall_mem_append.mpr ⟨hclear, List.forall_mem_append.mpr ⟨hclean, hmark.clean⟩⟩
  · have hblank {text : List Char} (h : ∀ c ∈ text.head?, c = ' ') :
        ∀ c ∈ text.head?, Text.isBlank c := fun c hc => by rw [h c hc]; rfl
    have hend : ∀ c ∈ (behind ++ mark).head?, c = ' ' := by
      cases behind with
      | nil => exact hmark.apart
      | cons c behind => exact hspace
    rw [Text.words_append (hblank hend), Text.words_append (hblank hleft.apart),
      Text.words_append (hblank hmark.apart), hyearWords, hpartWords, keptWords]
    simp only [List.append_assoc]

end MediaShelf.Pattern
