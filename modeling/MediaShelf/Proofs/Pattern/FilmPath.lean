import Mathlib.Data.List.Infix
import MediaShelf.Config.MediaDirectory
import MediaShelf.Proofs.Pattern.DecorationPlace
import MediaShelf.Proofs.Pattern.Render
import MediaShelf.Proofs.Regex.Lazy
import MediaShelf.Proofs.Text.CaseFold
import MediaShelf.Proofs.Text.Split

/-!
# The usual pattern of films, both ways

A path that was rendered by the pattern of film directories that name none is read as the title,
year and part it was rendered from. The title is matched lazily and may hold full stops,
parentheses and numbers. It is the whole title that is found, unless it ends in something that the
optional groups of the pattern would take for a year or a part.

## Main definitions

* `filmSegments` — the segments of the usual pattern
* `YearMark`, `PartMark` — what the optional groups match
* `holdsYear`, `endsInPart` — titles that could be split in another way

## Main results

* `reads_filmTail` — what stands behind the title in a match
* `title_unique` — a title that cannot be split is followed by one year and one part only
* `parseFilm_generate` — title, year and part of a rendered path
-/

namespace MediaShelf.Pattern

open Regex (Node Trace)

/-! ### Titles that could be split -/

/-- Four digits in parentheses stand at the start of the text. -/
def startsWithYear : List Char → Bool
  | '(' :: a :: b :: c :: d :: ')' :: _ => [a, b, c, d].all Char.isDigit
  | _ => false

/-- Four digits in parentheses stand somewhere in the text. -/
def holdsYear (text : List Char) : Bool := text.tails.any startsWithYear

/-- The text is the word `Part` in any letter case, between spaces, and digits behind it. -/
def isPart (text : List Char) : Bool :=
  (text.take 6).map Char.toLower == [' ', 'p', 'a', 'r', 't', ' '] &&
    !(text.drop 6).isEmpty && (text.drop 6).all Char.isDigit

/-- The text ends in a part number. -/
def endsInPart (text : List Char) : Bool := text.tails.any isPart

/-! ### What the optional groups match -/

/-- A year in parentheses behind a space, or nothing. -/
inductive YearMark : Option (List Char) → List Char → Prop
  | none : YearMark none []
  | some {year : List Char} : Token.year.Accepts year →
      YearMark (some year) ([' ', '('] ++ year ++ [')'])

/-- The word `Part` in any letter case, between spaces, and a number behind it, or nothing. -/
inductive PartMark : Option (List Char) → List Char → Prop
  | none : PartMark none []
  | some {word number : List Char} :
      List.Forall₂ (fun c d => Text.sameLetter c d) [' ', 'P', 'a', 'r', 't', ' '] word →
      IsDigits number → PartMark (some number) (word ++ number)

/-- The optional group of the year. -/
def yearGroup : Segment := .optional [.literal [' ', '('], .token .year, .literal [')']]

/-- The optional group of the part. -/
def partGroup : Segment := .optional [.literal [' ', 'P', 'a', 'r', 't', ' '], .token .part]

/-- What follows the title in the usual pattern. -/
def filmTail : List Segment := [yearGroup, partGroup, .literal ['.'], .token .extension]

/-- The segments of the usual pattern. -/
def filmSegments : List Segment := .token .title :: filmTail

theorem compile_defaultPattern_film : Pattern.compile (MediaDirectory.defaultPattern .film) =
    .ok ⟨MediaDirectory.defaultPattern .film, filmSegments⟩ := by
  have hread : compileSegments (MediaDirectory.defaultPattern .film).toList = .ok filmSegments := by
    simp only [MediaDirectory.defaultPattern]
    rfl
  rw [compile, hread]
  rfl

variable {before : Option Char} {after : List Char} {trace : Trace Token}

/-- What the optional group of the year matches. -/
theorem reads_year {rest : List Segment}
    (h : (node (yearGroup :: rest)).Reads before after trace) :
    ∃ year mark behind back, YearMark year mark ∧ (node rest).Reads behind after back ∧
      Trace.text trace = mark ++ Trace.text back ∧
      Trace.group? .year trace = year.or (Trace.group? .year back) ∧
      Trace.group? .part trace = Trace.group? .part back := by
  obtain ⟨front, back, hfront, hback, rfl⟩ := h
  rcases hfront with hyear | rfl
  · obtain ⟨bracket, _, _, hbracket, h₁, rfl⟩ := reads_literal_cons hyear
    obtain ⟨year, _, _, haccepts, h₂, rfl⟩ := reads_token_cons h₁
    obtain ⟨closing, _, _, hclosing, rfl, rfl⟩ := reads_literal_cons h₂
    obtain rfl := Text.eq_of_sameLetters (by decide) hbracket
    obtain rfl := Text.eq_of_sameLetters (by decide) hclosing
    refine ⟨some year, _, _, back, .some haccepts, hback, ?_⟩
    simp only [Trace.text_append, Trace.text_chars, text_groupTrace, List.append_assoc,
      List.append_nil, Trace.group?_chars, group?_groupTrace, Option.some_or, reduceCtorEq, if_true,
      if_false, and_self]
  · exact ⟨none, [], _, back, .none, hback, rfl, rfl, rfl⟩

/-- What the optional group of the part matches. -/
theorem reads_part {rest : List Segment}
    (h : (node (partGroup :: rest)).Reads before after trace) :
    ∃ part mark behind back, PartMark part mark ∧ (node rest).Reads behind after back ∧
      Trace.text trace = mark ++ Trace.text back ∧
      Trace.group? .part trace = part.or (Trace.group? .part back) ∧
      Trace.group? .year trace = Trace.group? .year back := by
  obtain ⟨front, back, hfront, hback, rfl⟩ := h
  rcases hfront with hpart | rfl
  · obtain ⟨word, _, _, hword, h₁, rfl⟩ := reads_literal_cons hpart
    obtain ⟨number, _, _, haccepts, rfl, rfl⟩ := reads_token_cons h₁
    refine ⟨some number, _, _, back, .some hword haccepts, hback, ?_⟩
    simp only [Trace.text_append, Trace.text_chars, text_groupTrace, List.append_assoc,
      List.append_nil, Trace.group?_chars, group?_groupTrace, Option.some_or, reduceCtorEq, if_true,
      if_false, and_self]
  · exact ⟨none, [], _, back, .none, hback, rfl, rfl, rfl⟩

/-- What stands behind the title: a year, a part and the extension. -/
theorem reads_filmTail (h : (node filmTail).Reads before after trace) :
    ∃ year yearMark part partMark extension, YearMark year yearMark ∧ PartMark part partMark ∧
      Token.extension.Accepts extension ∧
      Trace.text trace = yearMark ++ partMark ++ '.' :: extension ∧
      Trace.group? .year trace = year ∧ Trace.group? .part trace = part := by
  obtain ⟨year, yearMark, _, back₁, hyear, h₁, htext₁, hyear₁, hpart₁⟩ := reads_year h
  obtain ⟨part, partMark, _, back₂, hpart, h₂, htext₂, hpart₂, hyear₂⟩ := reads_part h₁
  obtain ⟨dot, _, _, hdot, h₃, rfl⟩ := reads_literal_cons h₂
  obtain ⟨extension, _, _, haccepts, rfl, rfl⟩ := reads_token_cons h₃
  obtain rfl := Text.eq_of_sameLetters (by decide) hdot
  refine ⟨year, yearMark, part, partMark, extension, hyear, hpart, haccepts, ?_, ?_, ?_⟩
  · simp only [htext₁, htext₂, Trace.text_append, Trace.text_chars, text_groupTrace,
      List.append_nil, List.append_assoc, List.singleton_append]
  · simp [hyear₁, hyear₂, groupTrace, Trace.group?]
  · simp [hpart₁, hpart₂, groupTrace, Trace.group?]

/-! ### One way to split a text -/

section Split

variable {a b word word' number number' year title title' : List Char}

/-- A text in a closing parenthesis does not end in digits. -/
theorem append_digits_ne (h : IsDigits number) : a ++ number ≠ b ++ [')'] := by
  intro heq
  have hlast := congrArg List.getLast? heq
  rw [List.getLast?_append_of_ne_nil _ h.1, List.getLast?_concat] at hlast
  exact absurd (h.2 ')' (List.mem_of_getLast? hlast)) (by decide)

/-- The word of a part number ends in a space. -/
theorem split_word
    (h : List.Forall₂ (fun c d => Text.sameLetter c d) [' ', 'P', 'a', 'r', 't', ' '] word) :
    ∃ letters, letters.length = 5 ∧ word = letters ++ [' '] := by
  have hspace : word.drop 5 = [' '] := Text.eq_of_sameLetters (by decide) (List.forall₂_drop 5 h)
  have hlength : word.length = 6 := h.length_eq.symm
  refine ⟨word.take 5, by simp [hlength], ?_⟩
  rw [← hspace, List.take_append_drop]

/-- Where a text ends in a part number, the number stands behind its last space. -/
theorem part_unique
    (hword : List.Forall₂ (fun c d => Text.sameLetter c d) [' ', 'P', 'a', 'r', 't', ' '] word)
    (hword' : List.Forall₂ (fun c d => Text.sameLetter c d) [' ', 'P', 'a', 'r', 't', ' '] word')
    (hnumber : IsDigits number) (hnumber' : IsDigits number')
    (h : a ++ (word ++ number) = b ++ (word' ++ number')) : a = b ∧ number = number' := by
  obtain ⟨letters, hletters, rfl⟩ := split_word hword
  obtain ⟨letters', hletters', rfl⟩ := split_word hword'
  have hspace {text : List Char} (hdigits : IsDigits text) : ' ' ∉ text := fun hmem =>
    absurd (hdigits.2 ' ' hmem) (by decide)
  have hsplit : (a ++ letters) ++ ' ' :: number = (b ++ letters') ++ ' ' :: number' := by
    simpa using h
  obtain ⟨hfront, hsame⟩ := Text.split_unique_last (hspace hnumber) (hspace hnumber') hsplit
  exact ⟨List.append_inj_left' hfront (hletters.trans hletters'.symm), hsame⟩

theorem holdsYear_append (hclean : ∀ c ∈ year, Text.isClean c) (h : Token.year.Accepts year)
    (front behind : List Char) : holdsYear (front ++ '(' :: (year ++ ')' :: behind)) := by
  obtain ⟨hlength, hdigits⟩ := h
  obtain ⟨c, d, e, f, rfl⟩ := List.length_eq_four.mp hlength
  have hyear : [c, d, e, f].all Char.isDigit :=
    List.all_eq_true.mpr fun g hg => Text.isDigit_of_isClean (hclean g hg) (hdigits g hg)
  refine List.any_eq_true.mpr ⟨'(' :: c :: d :: e :: f :: ')' :: behind, ?_, hyear⟩
  exact (List.mem_tails _ _).mpr ⟨front, rfl⟩

theorem endsInPart_append
    (hword : List.Forall₂ (fun c d => Text.sameLetter c d) [' ', 'P', 'a', 'r', 't', ' '] word)
    (hnumber : IsDigits number) (hclean : ∀ c ∈ word ++ number, Text.isClean c)
    (front : List Char) : endsInPart (front ++ (word ++ number)) := by
  refine List.any_eq_true.mpr ⟨word ++ number, (List.mem_tails _ _).mpr ⟨front, rfl⟩, ?_⟩
  have hlength : word.length = 6 := hword.length_eq.symm
  have hlower : word.map Char.toLower = [' ', 'p', 'a', 'r', 't', ' '] :=
    Text.map_toLower_of_sameLetters (by simp)
      (fun c hc => Text.toNat_of_isClean (hclean c (List.mem_append_left _ hc))) hword
  have hdigits : number.all Char.isDigit := List.all_eq_true.mpr fun c hc =>
    Text.isDigit_of_isClean (hclean c (List.mem_append_right _ hc)) (hnumber.2 c hc)
  simp [isPart, ← hlength, hlower, hdigits, hnumber.1]

variable {more : List Char} {year? year?' part? part?' : Option (List Char)}
  {yearMark yearMark' partMark partMark' : List Char}

/-- Texts that a year and a part end have the same part, unless one of them ends in a part number by
itself. -/
theorem parts_agree (hclean : ∀ c ∈ title ++ more, Text.isClean c)
    (hwhole : endsInPart (title ++ more) = false) (hyear : YearMark year? yearMark)
    (hyear' : YearMark year?' yearMark') (hpart : PartMark part? partMark)
    (hpart' : PartMark part?' partMark')
    (h : more ++ (yearMark ++ partMark) = yearMark' ++ partMark') :
    more ++ yearMark = yearMark' ∧ part?' = part? := by
  -- a year ends in a parenthesis and a part in a digit, so ends of different kinds never meet
  cases hpart with
  | none =>
    cases hpart' with
    | none => exact ⟨by simpa using h, rfl⟩
    | @some word number hword hnumber =>
      exfalso
      cases hyear with
      | none =>
        -- the title itself would end in the part number
        obtain rfl : more = yearMark' ++ (word ++ number) := by simpa using h
        have hends := endsInPart_append hword hnumber
          (fun c hc => hclean c (List.mem_append_right _ (List.mem_append_right _ hc)))
          (title ++ yearMark')
        rw [List.append_assoc, hwhole] at hends
        cases hends
      | @some year _ =>
        have hend : yearMark' ++ word ++ number = more ++ ([' ', '('] ++ year) ++ [')'] := by
          simpa using h.symm
        exact append_digits_ne hnumber hend
  | @some word number hword hnumber =>
    cases hpart' with
    | none =>
      exfalso
      cases hyear' with
      | none => simp [hnumber.1] at h
      | @some year _ =>
        have hend : more ++ (yearMark ++ word) ++ number = [' ', '('] ++ year ++ [')'] := by
          simpa using h
        exact append_digits_ne hnumber hend
    | some hword' hnumber' =>
      rw [← List.append_assoc] at h
      obtain ⟨hfront, rfl⟩ := part_unique hword hword' hnumber hnumber' h
      exact ⟨hfront, rfl⟩

/-- Texts that a year ends have the same year, unless one of them holds a year by itself. -/
theorem years_agree (hclean : ∀ c ∈ title ++ more, Text.isClean c)
    (hundated : holdsYear (title ++ more) = false) (hyear : YearMark year? yearMark)
    (hyear' : YearMark year?' yearMark') (h : more ++ yearMark = yearMark') :
    more = [] ∧ year?' = year? := by
  cases hyear with
  | none =>
    cases hyear' with
    | none => exact ⟨by simpa using h, rfl⟩
    | @some year haccepts =>
      -- the title itself would end in the year
      exfalso
      obtain rfl : more = [' ', '('] ++ year ++ [')'] := by simpa using h
      have hholds := holdsYear_append (fun c hc => hclean c (by simp [hc])) haccepts
        (title ++ [' ']) []
      simp only [List.append_assoc, List.cons_append, List.nil_append] at hholds hundated
      rw [hundated] at hholds
      cases hholds
  | @some year haccepts =>
    cases hyear' with
    | none => simp at h
    | @some year' haccepts' =>
      -- all years are of one length, so nothing can stand before one of them alone
      have hlength := congrArg List.length h
      simp only [List.length_append, haccepts.1, haccepts'.1] at hlength
      obtain rfl : more = [] := List.length_eq_zero_iff.mp (by omega)
      have hsame : year = year' := by simpa using h
      exact ⟨rfl, by rw [hsame]⟩

/-- A clean title that neither holds a year nor ends in a part number cannot be split: no shorter
text stands in front of a year and a part instead. -/
theorem title_unique (hclean : ∀ c ∈ title, Text.isClean c) (hundated : holdsYear title = false)
    (hwhole : endsInPart title = false) (hyear : YearMark year? yearMark)
    (hyear' : YearMark year?' yearMark') (hpart : PartMark part? partMark)
    (hpart' : PartMark part?' partMark') (hlength : title'.length ≤ title.length)
    (h : title ++ (yearMark ++ partMark) = title' ++ (yearMark' ++ partMark')) :
    title' = title ∧ year?' = year? ∧ part?' = part? := by
  -- what the longer title has more would have to belong to the marks behind the shorter one
  obtain ⟨more, rfl⟩ : title' <+: title :=
    List.prefix_of_prefix_length_le ⟨_, h.symm⟩ ⟨_, rfl⟩ hlength
  rw [List.append_assoc, List.append_cancel_left_eq] at h
  obtain ⟨hsplit, hparts⟩ := parts_agree hclean hwhole hyear hyear' hpart hpart' h
  obtain ⟨rfl, hyears⟩ := years_agree hclean hundated hyear hyear' hsplit
  exact ⟨(List.append_nil _).symm, hyears, hparts⟩

end Split

/-! ### Rendered paths -/

section Rendered

variable {context : Context} {title ext : List Char}

/-- The values of the tokens are texts of these tokens. -/
theorem fits_filmSegments (hyear : ∀ year ∈ context.year, 1000 ≤ year ∧ year ≤ 9999)
    (hextension : ∀ text, context.value? .extension = some text →
      text ≠ [] ∧ ∀ c ∈ text, c ≠ '.' ∧ c ≠ '/') :
    context.Fits fun kind => uses kind filmSegments := by
  intro kind _ text htext
  refine Context.accepts_value? htext (fun hkind => ?_) fun hkind => ?_
  · subst hkind
    obtain ⟨year, hcontext, rfl⟩ := Option.map_eq_some_iff.mp htext
    obtain ⟨hlow, hhigh⟩ := hyear year hcontext
    exact Text.length_decimal (k := 3) hlow (Nat.lt_succ_of_le hhigh)
  · subst hkind
    exact hextension text htext

/-- What the optional group of the year renders. -/
theorem yearMark_render (hfits : context.Fits fun kind => uses kind filmSegments) :
    YearMark (context.value? .year) (yearGroup.render context) := by
  cases hvalue : context.value? .year with
  | none =>
    have hnone : context.resolves [.literal [' ', '('], .token .year, .literal [')']] = false := by
      simp [Context.resolves, hvalue]
    rw [yearGroup, Segment.render, hnone]
    exact .none
  | some text =>
    have haccepts : Token.year.Accepts text := hfits .year (by decide) text hvalue
    simpa [yearGroup, Segment.render, render, Context.resolves, hvalue] using
      YearMark.some haccepts

/-- What the optional group of the part renders. -/
theorem partMark_render (hfits : context.Fits fun kind => uses kind filmSegments) :
    PartMark (context.value? .part) (partGroup.render context) := by
  cases hvalue : context.value? .part with
  | none =>
    have hnone : context.resolves [.literal [' ', 'P', 'a', 'r', 't', ' '], .token .part] =
        false := by
      simp [Context.resolves, hvalue]
    rw [partGroup, Segment.render, hnone]
    exact .none
  | some text =>
    have haccepts : Token.part.Accepts text := hfits .part (by decide) text hvalue
    have hself : List.Forall₂ (fun c d => Text.sameLetter c d) [' ', 'P', 'a', 'r', 't', ' ']
        [' ', 'P', 'a', 'r', 't', ' '] :=
      List.forall₂_same.mpr fun c _ => beq_self_eq_true (Text.foldCase c)
    simpa [partGroup, Segment.render, render, Context.resolves, hvalue] using
      PartMark.some hself haccepts

/-- A rendered path is matched, and its groups are what was rendered. -/
theorem matchPath?_render_film (htitle : context.value? .title = some title)
    (hext : context.value? .extension = some ext)
    (hfits : context.Fits fun kind => uses kind filmSegments)
    (hundated : holdsYear title = false) (hwhole : endsInPart title = false) :
    ∃ trace, matchPath? filmSegments (render context filmSegments) = some trace ∧
      Trace.group? .title trace = some title ∧
      Trace.group? .year trace = context.value? .year ∧
      Trace.group? .part trace = context.value? .part := by
  have hresolved : ∀ kind, .token kind ∈ filmSegments →
      (context.value? kind).isSome ∨ kind.Accepts [] := by
    intro kind hkind
    simp only [filmSegments, filmTail, yearGroup, partGroup, List.mem_cons,
      Segment.token.injEq, reduceCtorEq, List.not_mem_nil, false_or, or_false] at hkind
    rcases hkind with rfl | rfl
    · exact .inl (by simp [htitle])
    · exact .inl (by simp [hext])
  obtain ⟨rendered, hreads, htext⟩ := exists_reads_render filmSegments hfits hresolved
  obtain ⟨trace, htrace⟩ := Option.isSome_iff_exists.mp
    (Node.isSome_matchWhole? (hreads none []))
  rw [htext] at htrace
  obtain ⟨run, back, rfl, hpath, hback, hshortest⟩ := Node.shortest_of_matchWhole?
    (show (Node.seq (.group Token.title (.many true (· != '/'))) (node filmTail)).matchWhole? _ =
      some trace from htrace)
  refine ⟨_, htrace, ?_⟩
  -- the title that was rendered leaves a tail that is matched, so the one found is no longer
  obtain ⟨taken, htaken, htakenText⟩ := exists_reads_render filmTail
    (fun kind hkind => hfits kind (by simp [filmSegments, uses, hkind]))
    fun kind hkind => hresolved kind (List.mem_cons_of_mem _ hkind)
  have hrender : render context filmSegments = title ++ render context filmTail := by
    rw [filmSegments, render, Segment.render, htitle, Option.getD_some]
  have hlength : run.length ≤ title.length :=
    hshortest title taken (by rw [htakenText, hrender]) (htaken _ _)
  obtain ⟨year, yearMark, part, partMark, found, hyear, hpart, hfound, hbackText, hyearGroup,
    hpartGroup⟩ := reads_filmTail hback
  -- no full stop is part of an extension, so the last one stands in front of it
  have hfree {text : List Char} (h : Token.extension.Accepts text) : '.' ∉ text :=
    fun hmem => (h.2 '.' hmem).1 rfl
  have hends : title ++ (yearGroup.render context ++ partGroup.render context) ++ '.' :: ext =
      run ++ (yearMark ++ partMark) ++ '.' :: found := by
    rw [hbackText, hrender] at hpath
    simpa [filmTail, render, Segment.render, hext] using hpath
  obtain ⟨hsame, -⟩ := Text.split_unique_last (hfree (hfits .extension (by decide) ext hext))
    (hfree hfound) hends
  have hclean : ∀ c ∈ title, Text.isClean c := by
    obtain ⟨name, -, rfl⟩ := Option.map_eq_some_iff.mp htitle
    exact fun c => Text.isClean_of_mem_normalizeChars
  obtain ⟨rfl, hyears, hparts⟩ := title_unique hclean hundated hwhole (yearMark_render hfits) hyear
    (partMark_render hfits) hpart hlength hsame
  refine ⟨Trace.group?_group run back, ?_, ?_⟩
  · rw [Trace.group?_other (by decide), hyearGroup, hyears]
  · rw [Trace.group?_other (by decide), hpartGroup, hparts]

/-- A captured value of a token that is never empty. -/
theorem capture?_of_value {trace : Trace Token} {kind : Token}
    (h : Trace.group? kind trace = context.value? kind)
    (hne : ∀ text, context.value? kind = some text → text ≠ []) :
    capture? trace kind = context.value? kind := by
  cases hvalue : context.value? kind with
  | none => rw [capture?, h, hvalue, Option.filter_none]
  | some text => rw [capture?_eq (h.trans hvalue), if_neg (hne text hvalue)]

/-- A clean title without four digits in parentheses holds no bracketed year. -/
theorem not_holdsBracketedYear_of_undated (hclean : ∀ c ∈ title, Text.isClean c)
    (hundated : holdsYear title = false) : ¬HoldsBracketedYear title := by
  intro hholds
  obtain ⟨year, hcentury, hdigits, front, behind, htitle⟩ := hholds.exists_infix hclean
  have hheld := holdsYear_append hdigits hcentury.accepts front behind
  simp only [List.append_assoc, List.cons_append, List.nil_append] at htitle
  rw [htitle, hundated] at hheld
  cases hheld

theorem Context.map_value?_year (context : Context) :
    (context.value? .year).map String.ofList =
      context.year.map fun year => toString year.toNat := by
  rw [Context.value?, Option.map_map]
  rfl

theorem Context.bind_value?_part (context : Context) :
    (context.value? .part).bind Text.readWord? = context.part := by
  cases hpart : context.part with
  | none => simp [Context.value?, hpart]
  | some part => simp [Context.value?, hpart, Text.readWord?_decimal]

/-- No decoration is found on a clean title without a year and without a part number. -/
theorem stripDecorations_of_isClean (hclean : ∀ c ∈ title, Text.isClean c)
    (hundated : holdsYear title = false) (hpart : (stripDecorations title).part = none) :
    stripDecorations title = ⟨title, none, none⟩ := by
  have hyear := stripYear_eq_self (not_holdsBracketedYear_of_undated hclean hundated)
  unfold stripDecorations at hpart ⊢
  rw [hyear] at hpart ⊢
  dsimp only at hpart ⊢
  rw [stripPart_eq_self hpart]

/-- What the usual pattern of films renders for a title is matched as the title with its blanks
collapsed, the year and the part. -/
theorem matchFilm_render {name extension : String} (htitle : context.title = some name)
    (hne : Text.normalizeChars name.toList ≠ [])
    (hundated : holdsYear (Text.normalizeChars name.toList) = false)
    (hunmarked : (stripDecorations (Text.normalizeChars name.toList)).part = none)
    (hwhole : endsInPart (Text.normalizeChars name.toList) = false)
    (hyear : ∀ year ∈ context.year, 1000 ≤ year ∧ year ≤ 9999)
    (hextension : context.extension = some extension)
    (hbare : Text.trimStartBy (· == '.') extension.toList ≠ [])
    (hfree : ∀ c ∈ Text.trimStartBy (· == '.') extension.toList, c ≠ '.' ∧ c ≠ '/' ∧ c ≠ '\\') :
    (⟨MediaDirectory.defaultPattern .film, filmSegments⟩ : Pattern).matchFilm
      (String.ofList (render context filmSegments)) = some
        { term := String.ofList (Text.collapseBlanks (Text.normalizeChars name.toList))
          year := context.year.map fun year => toString year.toNat
          part := context.part } := by
  have htitleValue : context.value? .title = some (Text.normalizeChars name.toList) := by
    simp [Context.value?, htitle]
  have hextValue : context.value? .extension =
      some (Text.trimStartBy (· == '.') extension.toList) := by
    simp [Context.value?, hextension]
  have hfits : context.Fits fun kind => uses kind filmSegments := by
    refine fits_filmSegments hyear fun text htext => ?_
    rw [hextValue, Option.some.injEq] at htext
    exact htext ▸ ⟨hbare, fun c hc => ⟨(hfree c hc).1, (hfree c hc).2.1⟩⟩
  have hslashes : forwardSlashes (render context filmSegments) = render context filmSegments := by
    refine forwardSlashes_of_no_backslash (no_backslash_render (by decide) fun text htext hc => ?_)
    rw [hextValue, Option.some.injEq] at htext
    exact (hfree _ (htext ▸ hc)).2.2 rfl
  obtain ⟨trace, htrace, htitleGroup, hyearGroup, hpartGroup⟩ :=
    matchPath?_render_film htitleValue hextValue hfits hundated hwhole
  have htitleText : capture? trace .title = some (Text.normalizeChars name.toList) := by
    rw [capture?_eq htitleGroup, if_neg hne]
  have hyearText : capture? trace .year = context.value? .year :=
    capture?_of_value hyearGroup fun text htext => by
      obtain ⟨year, -, rfl⟩ := Option.map_eq_some_iff.mp htext
      exact Text.decimal_ne_nil _
  have hpartText : capture? trace .part = context.value? .part :=
    capture?_of_value hpartGroup fun text htext => by
      obtain ⟨part, -, rfl⟩ := Option.map_eq_some_iff.mp htext
      exact Text.decimal_ne_nil _
  have hclean : ∀ c ∈ Text.normalizeChars name.toList, Text.isClean c :=
    fun c => Text.isClean_of_mem_normalizeChars
  simp only [matchFilm, String.toList_ofList, hslashes, htrace, htitleText, hyearText, hpartText,
    stripDecorations_of_isClean hclean hundated hunmarked, context.map_value?_year,
    context.bind_value?_part, Option.bind_eq_bind, Option.bind_some, Option.or_none,
    List.isEmpty_eq_false_iff.mpr (Text.collapseBlanks_normalizeChars_ne_nil hne),
    Bool.false_eq_true, if_false]

/-- A path that the usual pattern of films renders for a title is read as the title with its blanks
collapsed, the year and the part. -/
theorem parseFilm_generate {name extension : String} (htitle : context.title = some name)
    (hne : Text.normalizeChars name.toList ≠ [])
    (hundated : holdsYear (Text.normalizeChars name.toList) = false)
    (hunmarked : (stripDecorations (Text.normalizeChars name.toList)).part = none)
    (hwhole : endsInPart (Text.normalizeChars name.toList) = false)
    (hyear : ∀ year ∈ context.year, 1000 ≤ year ∧ year ≤ 9999)
    (hextension : context.extension = some extension)
    (hbare : Text.trimStartBy (· == '.') extension.toList ≠ [])
    (hfree : ∀ c ∈ Text.trimStartBy (· == '.') extension.toList, c ≠ '.' ∧ c ≠ '/' ∧ c ≠ '\\') :
    ∃ pattern, Pattern.compile (MediaDirectory.defaultPattern .film) = .ok pattern ∧
      pattern.parseFilm (pattern.generate context) = some
        { term := String.ofList (Text.collapseBlanks (Text.normalizeChars name.toList))
          year := context.year.map fun year => toString year.toNat
          part := context.part } := by
  refine ⟨_, compile_defaultPattern_film, ?_⟩
  have hclean : ∀ c ∈ Text.normalizeChars name.toList, Text.isClean c :=
    fun c => Text.isClean_of_mem_normalizeChars
  -- the term is normalized once more in the end, which changes nothing in a normal text
  have hnormal : Text.normalize (String.ofList (Text.collapseBlanks (Text.normalizeChars
      name.toList))) = String.ofList (Text.collapseBlanks (Text.normalizeChars name.toList)) := by
    rw [Text.normalize, String.toList_ofList, Text.normalizeChars_collapseBlanks hclean]
  rw [parseFilm, generate,
    matchFilm_render htitle hne hundated hunmarked hwhole hyear hextension hbare hfree]
  simp [hnormal, Text.collapseBlanks_normalizeChars_ne_nil hne]

end Rendered

/-- A title with a number in parentheses, a part without a number and a full stop. -/
theorem parseFilm_generate_misleading :
    let context : Context :=
      { title := some "1917 (19): Part  IV.5", year := some 2019, part := some 2,
        extension := some "..mkv" }
    ∃ pattern, Pattern.compile (MediaDirectory.defaultPattern .film) = .ok pattern ∧
      pattern.parseFilm (pattern.generate context) =
        some { term := "1917 (19)- Part IV.5", year := some "2019", part := some 2 } := by
  intro context
  have hnormal : Text.normalizeChars "1917 (19): Part  IV.5".toList =
      "1917 (19)- Part  IV.5".toList := by decide +kernel
  have hbare : Text.trimStartBy (· == '.') "..mkv".toList = ['m', 'k', 'v'] := by decide
  have hyear : ∀ year ∈ context.year, 1000 ≤ year ∧ year ≤ 9999 := by
    rintro _ ⟨⟩
    decide
  have htitle : context.title = some "1917 (19): Part  IV.5" := rfl
  obtain ⟨pattern, hpattern, hparsed⟩ := parseFilm_generate htitle (by rw [hnormal]; decide)
    (by rw [hnormal]; decide) (by rw [hnormal]; decide +kernel) (by rw [hnormal]; decide) hyear rfl
    (by rw [hbare]; decide) (by rw [hbare]; simp)
  refine ⟨pattern, hpattern, ?_⟩
  rw [hparsed, hnormal]
  decide +kernel

end MediaShelf.Pattern
