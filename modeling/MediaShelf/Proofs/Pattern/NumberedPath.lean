import MediaShelf.Proofs.Pattern.Match
import MediaShelf.Proofs.Pattern.TitleMark
import MediaShelf.Proofs.Rename.Plan

/-!
# Paths with a number

Where a file would go to a place that is taken, a number in brackets comes between its name and its
extension. In a path of episodes that is the end of the title, which is not read. In a path of a
film it is not known as a number of copies: with four digits it is matched as the year, and else it
is part of the title, with the year and the part number in front of it.

## Main definitions

* `episodePath`, `episodeRow` — the path of episodes in the usual pattern, and its pieces
* `TellsEpisodes`, `TellsFilm` — metadata that the usual patterns write so that they can be read
* `numberedFilm` — what the path of a film with a number is read as

## Main results

* `parseEpisode_withSuffix` — a number changes nothing for episodes
* `matchPath?_numberMark` — what the pattern of films matches with a number
* `parseFilm_withSuffix` — what is read from the path of a film with a number
* `parse_withSuffix` — both
-/

namespace MediaShelf.Pattern

open Regex (Node Trace)

variable {context : Context} {name title front ext rest text : List Char} {season : UInt32}
  {episodes : List UInt32} {k : Nat}

/-- The extension is one that paths can end in. -/
def Context.IsExtended (context : Context) : Prop :=
  ∃ ext, context.value? .extension = some ext ∧ ext ≠ [] ∧
    ∀ c ∈ ext, c ≠ '.' ∧ c ≠ '/' ∧ c ≠ '\\'

/-! ### Episodes -/

/-- The path of episodes in the usual pattern. -/
def episodePath (name : List Char) (season : UInt32) (episodes : List UInt32)
    (title ext : List Char) : List Char :=
  name ++ ['/', 'S', 'e', 'a', 's', 'o', 'n', ' '] ++ Text.twoDigits season.toNat ++ ['/'] ++
    Text.twoDigits season.toNat ++ [' '] ++ writeEpisodes episodes ++ [' ', '-', ' '] ++
    (title ++ '.' :: ext)

theorem render_eq_episodePath (hseason : context.season = some season)
    (hepisodes : context.episodes ≠ []) : render context episodeSegments =
      episodePath ((context.value? .showName).getD []) season context.episodes
        ((context.value? .title).getD []) ((context.value? .extension).getD []) := by
  have hseason : context.value? .season = some (Text.twoDigits season.toNat) := by
    simp [Context.value?, hseason]
  have hepisode : context.value? .episode = some (writeEpisodes context.episodes) := by
    simp [Context.value?, hepisodes]
  simp [episodePath, episodeSegments, render, Segment.render, hseason, hepisode]

/-- The pieces of such a path. -/
def episodeRow (name : List Char) (season : UInt32) (episodes : List UInt32)
    (title ext : List Char) : List Piece :=
  [.value .showName name, .literal ['/', 'S', 'e', 'a', 's', 'o', 'n', ' '],
    .value .season (Text.twoDigits season.toNat), .literal ['/'],
    .value .season (Text.twoDigits season.toNat), .literal [' '],
    .value .episode (writeEpisodes episodes), .literal [' ', '-', ' '], .value .title title,
    .literal ['.'], .value .extension ext]

theorem spell_episodeRow : spell (episodeRow name season episodes title ext) =
    episodePath name season episodes title ext := by
  simp [spell, episodeRow, episodePath, Piece.text]

theorem takes_episodeRow : Takes episodeSegments (episodeRow name season episodes title ext) := by
  simp [episodeSegments, episodeRow, Takes, Segment.Takes]

/-- Whatever the title is, a path of episodes is read as their season, their numbers and the
name. -/
theorem matchEpisode?_episodePath {source : String} (hname : '/' ∉ name) (htitle : '/' ∉ title)
    (hepisodes : episodes ≠ []) (hext : Token.extension.Accepts ext) :
    matchEpisode? ⟨source, episodeSegments⟩ (episodePath name season episodes title ext) =
      some ⟨season, episodes, .pattern,
        (if name = [] then none else some name).map String.ofList⟩ := by
  have hshow : Token.showName.Accepts name := fun c hc heq => hname (heq ▸ hc)
  have haccepts : ∀ kind text, .value kind text ∈ episodeRow name season episodes title ext →
      kind.Accepts text := by
    intro kind text hmem
    simp only [episodeRow, List.mem_cons, Piece.value.injEq, reduceCtorEq, List.not_mem_nil,
      false_or, or_false] at hmem
    rcases hmem with ⟨rfl, rfl⟩ | ⟨rfl, rfl⟩ | ⟨rfl, rfl⟩ | ⟨rfl, rfl⟩ | ⟨rfl, rfl⟩ | ⟨rfl, rfl⟩
    · exact hshow
    · exact isDigits_twoDigits _
    · exact isDigits_twoDigits _
    · exact accepts_writeEpisodes hepisodes
    · exact fun c hc heq => htitle (heq ▸ hc)
    · exact hext
  obtain ⟨trace, htrace⟩ := exists_matchPath?_spell takes_episodeRow haccepts
  rw [spell_episodeRow] at htrace
  obtain ⟨hreads, htext⟩ := Node.matchWhole?_reads htrace
  obtain ⟨hnameGroup, hseasonGroup, hepisodeGroup⟩ :=
    group?_of_reads hreads hshow (isDigits_twoDigits _) (accepts_writeEpisodes hepisodes) htext
  have hseasonText : capture? trace .season = some (Text.twoDigits season.toNat) := by
    rw [capture?_eq hseasonGroup, if_neg (Text.twoDigits_ne_nil _)]
  have hepisodeText : capture? trace .episode = some (writeEpisodes episodes) := by
    rw [capture?_eq hepisodeGroup, if_neg (writeEpisodes_ne_nil hepisodes)]
  simp only [matchEpisode?, htrace, hseasonText, hepisodeText, Text.readWord?_twoDigits,
    readEpisodes?_writeEpisodes hepisodes, capture?_eq hnameGroup, Option.bind_eq_bind,
    Option.bind_some, Option.pure_def]

theorem parseEpisode_episodePath {source : String} (hname : ∀ c ∈ name, c ≠ '/' ∧ c ≠ '\\')
    (htitle : ∀ c ∈ title, c ≠ '/' ∧ c ≠ '\\') (hepisodes : episodes ≠ [])
    (hne : ext ≠ []) (hext : ∀ c ∈ ext, c ≠ '.' ∧ c ≠ '/' ∧ c ≠ '\\') :
    parseEpisode ⟨source, episodeSegments⟩
        (String.ofList (episodePath name season episodes title ext)) =
      some ⟨season, episodes, .pattern,
        (if name = [] then none else some name).map String.ofList⟩ := by
  have hslashes : '\\' ∉ episodePath name season episodes title ext := by
    have hdigits : '\\' ∉ Text.twoDigits season.toNat := fun hmem =>
      absurd (Text.isDigit_of_mem_twoDigits hmem) (by decide)
    have hnumbers : '\\' ∉ writeEpisodes episodes := fun hmem =>
      absurd (mem_writeEpisodes hmem) (by decide)
    simp only [episodePath, List.mem_append, List.mem_cons, not_or]
    refine ⟨⟨⟨⟨⟨⟨⟨⟨fun h => (hname _ h).2 rfl, ?_⟩, hdigits⟩, ?_⟩, hdigits⟩, ?_⟩, hnumbers⟩, ?_⟩,
      fun h => (htitle _ h).2 rfl, ?_, fun h => (hext _ h).2.2 rfl⟩ <;> simp
  have hmatched : matchEpisode? ⟨source, episodeSegments⟩
      (episodePath name season episodes title ext) = _ :=
    matchEpisode?_episodePath (fun h => (hname _ h).1 rfl) (fun h => (htitle _ h).1 rfl) hepisodes
      ⟨hne, fun c hc => ⟨(hext c hc).1, (hext c hc).2.1⟩⟩
  rw [parseEpisode, String.toList_ofList, forwardSlashes_of_no_backslash hslashes, hmatched,
    Option.some_or]

/-- A path of episodes lies in a directory with a name, and the number comes behind the title. -/
theorem withSuffix_episodePath (htitle : '/' ∉ title) (hslash : '/' ∉ ext) (hdot : '.' ∉ ext)
    (k : Nat) : Rename.withSuffix ⟨episodePath name season episodes title ext⟩ k =
      ⟨episodePath name season episodes (title ++ numberMark k) ext⟩ := by
  have hdigits : '/' ∉ Text.twoDigits season.toNat := fun hmem =>
    absurd (Text.isDigit_of_mem_twoDigits hmem) (by decide)
  have hnumbers : '/' ∉ writeEpisodes episodes := fun hmem =>
    absurd (mem_writeEpisodes hmem) (by decide)
  let folder := ['S', 'e', 'a', 's', 'o', 'n', ' '] ++ Text.twoDigits season.toNat
  let front := Text.twoDigits season.toNat ++ [' '] ++ writeEpisodes episodes ++ [' ', '-', ' '] ++
    title
  have hfolder : Path.IsName folder := by
    constructor <;> simp [folder, hdigits]
  have hspace : ' ' ∈ front ++ '.' :: ext := by simp [front]
  have hname : Path.IsName (front ++ '.' :: ext) := by
    refine ⟨List.ne_nil_of_mem hspace, fun heq => ?_, fun heq => ?_, ?_⟩
    · rw [heq] at hspace
      simp at hspace
    · rw [heq] at hspace
      simp at hspace
    · simp [front, hdigits, hnumbers, htitle, hslash]
  have hpath := Rename.withSuffix_append_dot (.inr ⟨name, folder, hfolder, rfl⟩) hname hdot
    (List.ne_nil_of_mem (a := ' ') (by simp [front])) k
  simpa [folder, front, episodePath, numberMark] using hpath

/-- Metadata of episodes that the usual pattern writes so that they can be read. -/
structure TellsEpisodes (context : Context) : Prop where
  season : context.season.isSome
  episodes : context.episodes ≠ []
  extension : context.IsExtended

theorem parseEpisode_withSuffix {source : String} (h : TellsEpisodes context) (k : Nat) :
    ∃ parsed, parseEpisode ⟨source, episodeSegments⟩
        (String.ofList (render context episodeSegments)) = some parsed ∧
      parseEpisode ⟨source, episodeSegments⟩
        (Rename.withSuffix ⟨render context episodeSegments⟩ k).toString = some parsed := by
  obtain ⟨ext, hext, hne, hbare⟩ := h.extension
  obtain ⟨season, hseason⟩ := Option.isSome_iff_exists.mp h.season
  have hvalue {kind : Token} (hkind : kind = .showName ∨ kind = .title) :
      ∀ c ∈ (context.value? kind).getD [], c ≠ '/' ∧ c ≠ '\\' := by
    intro c hc
    cases hvalue : context.value? kind with
    | none => simp [hvalue] at hc
    | some text =>
      rw [hvalue, Option.getD_some] at hc
      rcases hkind with rfl | rfl <;>
        obtain ⟨name, -, rfl⟩ := Option.map_eq_some_iff.mp hvalue <;>
        exact ne_slash_of_mem_normalizeChars hc
  have hname := hvalue (.inl rfl)
  have htitle := hvalue (.inr rfl)
  have hnumber : ∀ c ∈ numberMark k, c ≠ '/' ∧ c ≠ '\\' := by
    intro c hc
    constructor <;> rintro rfl <;> simp [numberMark, mt Text.isDigit_of_mem_decimal] at hc
  rw [render_eq_episodePath hseason h.episodes, hext, Option.getD_some,
    withSuffix_episodePath (fun hc => (htitle _ hc).1 rfl) (fun hc => (hbare _ hc).2.1 rfl)
      (fun hc => (hbare _ hc).1 rfl)]
  refine ⟨_, parseEpisode_episodePath hname htitle h.episodes hne hbare,
    parseEpisode_episodePath hname (fun c hc => ?_) h.episodes hne hbare⟩
  rcases List.mem_append.mp hc with hc | hc
  · exact htitle c hc
  · exact hnumber c hc

/-! ### Films -/

/-- The mark of a number that is not matched as a year. -/
def keptNumber (k : Nat) : List Char := if 1000 ≤ k ∧ k ≤ 9999 then [] else numberMark k

theorem isQuiet_keptNumber (k : Nat) : IsQuiet (keptNumber k) := by
  unfold keptNumber
  split
  · exact isQuiet_nil
  · exact isQuiet_numberMark k

/-- A bracketed year has four digits. -/
theorem not_holdsBracketedYear_keptNumber (k : Nat) : ¬HoldsBracketedYear (keptNumber k) := by
  unfold keptNumber
  split
  · exact not_holdsBracketedYear_of_free (by simp) (by simp)
  · rw [holdsBracketedYear_numberMark_iff]
    omega

theorem words_keptNumber (k : Nat) : Text.words (keptNumber k) =
    if 1000 ≤ k ∧ k ≤ 9999 then [] else ['(' :: (Text.decimal k ++ [')'])] := by
  unfold keptNumber
  split
  · rfl
  · exact words_numberMark k

/-- A number in brackets is a year or belongs to the title. -/
theorem numberMark_unique {year : Option (List Char)} {mark run : List Char} {k : Nat}
    (hyear : YearMark year mark) (h : front ++ numberMark k = run ++ mark) :
    year = none ∧ run = front ++ numberMark k ∨
      (Text.decimal k).length = 4 ∧ year = some (Text.decimal k) ∧ run = front := by
  cases hyear with
  | none => exact .inl ⟨rfl, by simpa using h.symm⟩
  | @some digits haccepts =>
    have hbracket {text : List Char} (htext : ∀ c ∈ text, Text.isDecimalDigit c) :
        '(' ∉ text ++ [')'] := by
      rw [List.mem_append, not_or]
      exact ⟨fun hmem => absurd (htext _ hmem) (by decide), by decide⟩
    have hsplit : (front ++ [' ']) ++ '(' :: (Text.decimal k ++ [')']) =
        (run ++ [' ']) ++ '(' :: (digits ++ [')']) := by simpa [numberMark] using h
    obtain ⟨hrun, hdigits⟩ := Text.split_unique_last (hbracket (isDigits_decimal k).2)
      (hbracket haccepts.2) hsplit
    obtain rfl := List.append_cancel_right hdigits
    exact .inr ⟨haccepts.1, rfl, (List.append_cancel_right hrun).symm⟩

/-- A number with four digits is matched as a year. -/
theorem exists_reads_numberMark {k : Nat} (hfour : 1000 ≤ k ∧ k ≤ 9999)
    (hext : Token.extension.Accepts ext) :
    ∃ taken, (∀ before after, (node filmTail).Reads before after taken) ∧
      Trace.text taken = numberMark k ++ '.' :: ext := by
  have htakes : Takes filmTail [.literal [' ', '('], .value .year (Text.decimal k), .literal [')'],
      .literal ['.'], .value .extension ext] := by
    refine ⟨[.literal [' ', '('], .value .year (Text.decimal k), .literal [')']], _, .inl ?_,
      ⟨[], _, .inr rfl, ?_, rfl⟩, rfl⟩ <;> simp [Takes, Segment.Takes]
  have haccepts : ∀ kind text, .value kind text ∈ [Piece.literal [' ', '('],
      .value .year (Text.decimal k), .literal [')'], .literal ['.'], .value .extension ext] →
      kind.Accepts text := by
    intro kind text hmem
    simp only [List.mem_cons, Piece.value.injEq, reduceCtorEq, List.not_mem_nil, false_or,
      or_false] at hmem
    rcases hmem with ⟨rfl, rfl⟩ | ⟨rfl, rfl⟩
    · exact ⟨Text.length_decimal_eq_four_iff.mpr hfour, (isDigits_decimal k).2⟩
    · exact hext
  obtain ⟨taken, htaken, htext⟩ := exists_reads_of_takes filmTail htakes haccepts
  exact ⟨taken, htaken, by rw [htext]; simp [spell, Piece.text, numberMark]⟩

/-- The pattern of films matches every name with an extension, since the title alone can be all of
it. -/
theorem exists_matchPath?_film (hslash : '/' ∉ text) (hext : Token.extension.Accepts ext) :
    ∃ trace, matchPath? filmSegments (text ++ '.' :: ext) = some trace := by
  have htakes : Takes filmSegments [.value .title text, .literal ['.'], .value .extension ext] := by
    simp [filmSegments, filmTail, yearGroup, partGroup, Takes, Segment.Takes]
  obtain ⟨trace, htrace⟩ := exists_matchPath?_spell htakes fun kind text hmem => by
    simp only [List.mem_cons, Piece.value.injEq, reduceCtorEq, List.not_mem_nil, false_or,
      or_false] at hmem
    rcases hmem with ⟨rfl, rfl⟩ | ⟨rfl, rfl⟩
    · exact fun c hc heq => hslash (heq ▸ hc)
    · exact hext
  have hspell : spell [.value .title text, .literal ['.'], .value .extension ext] =
      text ++ '.' :: ext := by
    simp [spell, Piece.text]
  exact ⟨trace, hspell ▸ htrace⟩

/-- A path with a number is matched, and a number with four digits is its year. -/
theorem matchPath?_numberMark (hfront : '/' ∉ front) (hext : Token.extension.Accepts ext)
    (k : Nat) :
    ∃ trace, matchPath? filmSegments (front ++ numberMark k ++ '.' :: ext) = some trace ∧
      Trace.group? .part trace = none ∧
      Trace.group? .title trace = some (front ++ keptNumber k) ∧
      Trace.group? .year trace =
        if 1000 ≤ k ∧ k ≤ 9999 then some (Text.decimal k) else none := by
  have hslash : '/' ∉ front ++ numberMark k := by
    simp [numberMark, hfront, mt Text.isDigit_of_mem_decimal]
  obtain ⟨trace, htrace⟩ := exists_matchPath?_film hslash hext
  obtain ⟨run, back, rfl, hpath, hback, hshortest⟩ := Node.shortest_of_matchWhole?
    (show (Node.seq (.group Token.title (.many true (· != '/'))) (node filmTail)).matchWhole? _ =
      some trace from htrace)
  refine ⟨_, htrace, ?_⟩
  obtain ⟨year, yearMark, part, partMark, found, hyear, hpart, hfound, hbackText, hyearGroup,
    hpartGroup⟩ := reads_filmTail hback
  have hfree {text : List Char} (h : Token.extension.Accepts text) : '.' ∉ text :=
    fun hmem => (h.2 '.' hmem).1 rfl
  obtain ⟨hsame, -⟩ := Text.split_unique_last (hfree hext) (hfree hfound)
    (show front ++ numberMark k ++ '.' :: ext = run ++ (yearMark ++ partMark) ++ '.' :: found by
      rw [hpath, hbackText]
      simp)
  -- a part would end in a digit, and the number does not
  obtain ⟨rfl, rfl⟩ : part = none ∧ partMark = [] := by
    cases hpart with
    | none => exact ⟨rfl, rfl⟩
    | @some word number hword hnumber =>
      have hend : run ++ (yearMark ++ word) ++ number =
          front ++ ([' ', '('] ++ Text.decimal k) ++ [')'] := by
        simpa [numberMark] using hsame.symm
      exact absurd hend (append_digits_ne hnumber)
  have htitle : Trace.group? Token.title (.enter Token.title :: (run.map .char ++
      [.leave Token.title]) ++ back) = some run := Trace.group?_group run back
  have hother {kind : Token} (hkind : kind ≠ .title) : Trace.group? kind (.enter Token.title ::
      (run.map .char ++ [.leave Token.title]) ++ back) = Trace.group? kind back :=
    Trace.group?_other hkind.symm run back
  rw [htitle, hother (by decide), hother (by decide), hpartGroup, hyearGroup]
  refine ⟨rfl, ?_⟩
  rw [List.append_nil] at hsame
  rw [keptNumber]
  rcases numberMark_unique hyear hsame with ⟨rfl, rfl⟩ | ⟨hfour, rfl, rfl⟩
  · rw [if_neg, if_neg]
    · exact ⟨rfl, rfl⟩
    all_goals
      -- else the title in front of the number would have been found
      intro hfour
      obtain ⟨taken, htaken, htakenText⟩ := exists_reads_numberMark hfour hext
      have hlength := hshortest front taken (by rw [htakenText, List.append_assoc]) (htaken _ _)
      have hpos : 0 < (numberMark k).length := by simp [numberMark]
      rw [List.length_append] at hlength
      omega
  · have hrange := Text.length_decimal_eq_four_iff.mp hfour
    rw [if_pos hrange, if_pos hrange, List.append_nil]
    exact ⟨rfl, rfl⟩

/-- Metadata of a film with a title that the usual pattern writes so that it can be read. -/
structure TellsFilm (context : Context) (title : List Char) : Prop where
  written : context.value? .title = some title
  ne_nil : title ≠ []
  undated : holdsYear title = false
  unmarked : (stripDecorations title).part = none
  extension : context.IsExtended

/-- What a path with a number is read as. The number stays behind the title, as do a year and a part
number that titles cannot carry, but with four digits it is the year. -/
def numberedFilm (context : Context) (title : List Char) (k : Nat) : FilmDetails where
  term := String.ofList (Text.joinWith [' '] (Text.words title ++ keptWords context ++
    if 1000 ≤ k ∧ k ≤ 9999 then [] else ['(' :: (Text.decimal k ++ [')'])]))
  year := if 1000 ≤ k ∧ k ≤ 9999 then some (toString k)
    else (context.year.filter isTitleYear).map fun year => toString year.toNat
  part := context.part.filter isTitlePart

/-- What stands in front of the extension in the path of a film. -/
def filmName (context : Context) (title : List Char) : List Char :=
  title ++ (yearText context.year ++ partText context.part)

theorem render_filmSegments (htitle : context.value? .title = some title)
    (hext : context.value? .extension = some ext) :
    render context filmSegments = filmName context title ++ '.' :: ext := by
  rw [filmName, ← render_yearGroup, ← render_partGroup]
  simp [filmSegments, filmTail, render, Segment.render, htitle, hext]

/-- Text without slashes with an extension behind it is a name. -/
theorem isName_append_dot (hfront : '/' ∉ front) (hne : front ≠ []) (hslash : '/' ∉ ext)
    (hext : ext ≠ []) : Path.IsName (front ++ '.' :: ext) := by
  have hlength : 2 < (front ++ '.' :: ext).length := by
    have := List.length_pos_of_ne_nil hne
    have := List.length_pos_of_ne_nil hext
    rw [List.length_append, List.length_cons]
    omega
  refine ⟨by simp, fun heq => ?_, fun heq => ?_, by simp [hfront, hslash]⟩
  · simp [heq] at hlength
  · simp [heq] at hlength

section Film

variable (h : TellsFilm context title)
include h

theorem TellsFilm.isClean_title : ∀ c ∈ title, Text.isClean c := by
  obtain ⟨name, -, rfl⟩ := Option.map_eq_some_iff.mp h.written
  exact fun c => Text.isClean_of_mem_normalizeChars

theorem TellsFilm.isClean_filmName : ∀ c ∈ filmName context title, Text.isClean c :=
  List.forall_mem_append.mpr ⟨h.isClean_title,
    List.forall_mem_append.mpr ⟨isClean_yearText _, isClean_partText _⟩⟩

theorem TellsFilm.words_title_ne_nil : Text.words title ≠ [] := by
  have hne := h.ne_nil
  obtain ⟨name, -, rfl⟩ := Option.map_eq_some_iff.mp h.written
  exact mt Text.collapseBlanks_eq_nil_iff.mpr (Text.collapseBlanks_normalizeChars_ne_nil hne)

/-- What is taken off the title that is matched in a path with a number. -/
theorem TellsFilm.stripDecorations_filmName (k : Nat) :
    ∃ bare, stripDecorations (filmName context title ++ keptNumber k) =
        ⟨bare, (context.year.filter isTitleYear).map fun year => Text.decimal year.toNat,
          context.part.filter isTitlePart⟩ ∧ (∀ c ∈ bare, Text.isClean c) ∧
      Text.collapseBlanks bare ≠ [] ∧ Text.words bare = Text.words title ++ keptWords context ++
        if 1000 ≤ k ∧ k ≤ 9999 then [] else ['(' :: (Text.decimal k ++ [')'])] := by
  have hundated := not_holdsBracketedYear_of_undated h.isClean_title h.undated
  have hunmarked : ¬HoldsPart title := by
    have hpart := h.unmarked
    rw [stripDecorations, stripYear_eq_self hundated] at hpart
    exact (part_stripPart_eq_none_iff h.isClean_title).mp hpart
  obtain ⟨bare, hstrip, hclean, hwords⟩ := stripDecorations_marks h.isClean_title hundated hunmarked
    (isQuiet_keptNumber k) (not_holdsBracketedYear_keptNumber k) context
  rw [← words_keptNumber, filmName, List.append_assoc, List.append_assoc]
  refine ⟨bare, hstrip, hclean, ?_, hwords⟩
  -- the words of the title itself are never lost
  rw [Ne, Text.collapseBlanks_eq_nil_iff, hwords, List.append_assoc, List.append_eq_nil_iff]
  exact fun hnil => h.words_title_ne_nil hnil.1

/-- The path of a film with a number is read with the number as its year or behind its title. -/
theorem matchFilm_numberMark {source : String} (hne : ext ≠ [])
    (hbare : ∀ c ∈ ext, c ≠ '.' ∧ c ≠ '/' ∧ c ≠ '\\') (k : Nat) :
    matchFilm ⟨source, filmSegments⟩
        (String.ofList (filmName context title ++ numberMark k ++ '.' :: ext)) =
      some (numberedFilm context title k) := by
  have hslashes : '\\' ∉ filmName context title ++ numberMark k ++ '.' :: ext := by
    simp only [List.mem_append, List.mem_cons, not_or]
    exact ⟨⟨fun hc => absurd (h.isClean_filmName _ hc) (by decide),
      fun hc => absurd ((isQuiet_numberMark k).clean _ hc) (by decide)⟩, by decide,
      fun hc => (hbare _ hc).2.2 rfl⟩
  obtain ⟨trace, htrace, hpart, htitle, hyear⟩ := matchPath?_numberMark
    (fun hc => absurd (h.isClean_filmName _ hc) (by decide))
    ⟨hne, fun c hc => ⟨(hbare c hc).1, (hbare c hc).2.1⟩⟩ k
  obtain ⟨bare, hstrip, -, hsome, hwords⟩ := h.stripDecorations_filmName k
  have htitleText : capture? trace .title = some (filmName context title ++ keptNumber k) := by
    rw [capture?_eq htitle, if_neg (by simp [filmName, h.ne_nil])]
  have hyearText : capture? trace .year =
      if 1000 ≤ k ∧ k ≤ 9999 then some (Text.decimal k) else none := by
    rw [capture?, hyear]
    split <;> simp [Text.decimal_ne_nil]
  have hpartText : capture? trace .part = none := by
    rw [capture?, hpart, Option.filter_none]
  simp only [matchFilm, String.toList_ofList, forwardSlashes_of_no_backslash hslashes, htrace,
    htitleText, hyearText, hpartText, hstrip, Option.bind_eq_bind, Option.bind_some,
    Option.bind_none, Option.none_or, List.isEmpty_eq_false_iff.mpr hsome, Bool.false_eq_true,
    if_false, numberedFilm, Option.some.injEq, FilmDetails.mk.injEq, and_true]
  refine ⟨by rw [Text.collapseBlanks, hwords], ?_⟩
  split
  · rfl
  · rw [Option.none_or, Option.map_map]
    rfl

theorem parseFilm_withSuffix {source : String} (k : Nat) :
    parseFilm ⟨source, filmSegments⟩
        (Rename.withSuffix ⟨render context filmSegments⟩ k).toString =
      some (numberedFilm context title k) := by
  obtain ⟨ext, hext, hne, hbare⟩ := h.extension
  have hpath : Rename.withSuffix ⟨render context filmSegments⟩ k =
      ⟨filmName context title ++ numberMark k ++ '.' :: ext⟩ := by
    have hfront : filmName context title ≠ [] := by simp [filmName, h.ne_nil]
    rw [render_filmSegments h.written hext]
    refine Rename.withSuffix_append_dot (.inl rfl) (isName_append_dot ?_ hfront
      (fun hc => (hbare _ hc).2.1 rfl) hne) (fun hc => (hbare _ hc).1 rfl) hfront k
    exact fun hc => absurd (h.isClean_filmName _ hc) (by decide)
  -- the term is normalized once more in the end, and it is normal
  obtain ⟨bare, -, hclean, hsome, hwords⟩ := h.stripDecorations_filmName k
  have hterm : (numberedFilm context title k).term = String.ofList (Text.collapseBlanks bare) := by
    rw [numberedFilm, Text.collapseBlanks, hwords]
  have hnormal : Text.normalize (numberedFilm context title k).term =
      (numberedFilm context title k).term := by
    rw [hterm, Text.normalize, String.toList_ofList, Text.normalizeChars_collapseBlanks hclean]
  have hsolid : (numberedFilm context title k).term.isEmpty = false := by
    simp [hterm, hsome]
  rw [hpath, Path.toString, parseFilm, matchFilm_numberMark h hne hbare]
  simp only [Option.bind_eq_bind, Option.bind_some, hnormal, hsolid, Bool.false_eq_true, if_false]

end Film

/-- A number between the name of a file and its extension leaves what is read from a path of the
usual pattern of episodes as it is. In a path of the usual pattern of films it is the year, if it
has four digits, and else it stays behind the title; year and part number in front of it are read as
far as titles can carry them. -/
theorem parse_withSuffix : ∃ episodes films : Pattern,
    Pattern.compile (MediaDirectory.defaultPattern .tvShow) = .ok episodes ∧
      Pattern.compile (MediaDirectory.defaultPattern .film) = .ok films ∧
      ∀ (context : Context) (k : Nat),
        (TellsEpisodes context → ∃ parsed,
          episodes.parseEpisode (episodes.generate context) = some parsed ∧
            episodes.parseEpisode (Rename.withSuffix
              (Path.ofString (episodes.generate context)) k).toString = some parsed) ∧
        ∀ title, TellsFilm context title →
          films.parseFilm (Rename.withSuffix (Path.ofString (films.generate context)) k).toString =
            some (numberedFilm context title k) := by
  refine ⟨_, _, compile_defaultPattern, compile_defaultPattern_film, fun context k => ⟨?_, ?_⟩⟩
  · intro h
    rw [generate, Path.ofString, String.toList_ofList]
    exact parseEpisode_withSuffix h k
  · intro title h
    rw [generate, Path.ofString, String.toList_ofList]
    exact parseFilm_withSuffix h k

/-- A title that goes on like a number, and a part number that no title carries. -/
theorem parse_withSuffix_kept :
    let series : Context :=
      { showName := some "Lost", season := some 1, episodes := [2, 3], title := some "Tabula (1)",
        extension := some ".mkv" }
    let film : Context :=
      { title := some "1917 Part II", year := some 2019, part := some 200, extension := some "avi" }
    ∃ episodes films : Pattern,
      (∃ parsed, episodes.parseEpisode (episodes.generate series) = some parsed ∧
        episodes.parseEpisode
          (Rename.withSuffix (Path.ofString (episodes.generate series)) 2).toString =
          some parsed) ∧
      films.parseFilm (Rename.withSuffix (Path.ofString (films.generate film)) 12).toString =
        some ⟨"1917 Part II Part 200 (12)", some "2019", none⟩ := by
  intro series film
  have hseries : TellsEpisodes series :=
    ⟨rfl, by decide, ['m', 'k', 'v'], by decide, by decide, by simp⟩
  have hfilm : TellsFilm film "1917 Part II".toList :=
    ⟨by decide +kernel, by decide, by decide, by decide +kernel, ['a', 'v', 'i'], by decide,
      by decide, by simp⟩
  obtain ⟨episodes, films, -, -, hall⟩ := parse_withSuffix
  refine ⟨episodes, films, (hall series 2).1 hseries, ?_⟩
  rw [(hall film 12).2 _ hfilm]
  decide +kernel

/-- The number of a copy becomes part of the title. -/
theorem parseFilm_withSuffix_ne :
    let film : Context := { title := some "Heat", year := some 1995, extension := some "avi" }
    TellsFilm film "Heat".toList ∧ endsInPart "Heat".toList = false ∧
      (∀ year ∈ film.year, 1000 ≤ year ∧ year ≤ 9999) ∧
      ∃ films : Pattern, Pattern.compile (MediaDirectory.defaultPattern .film) = .ok films ∧
        films.parseFilm (films.generate film) = some ⟨"Heat", some "1995", none⟩ ∧
        films.parseFilm (Rename.withSuffix (Path.ofString (films.generate film)) 2).toString =
          some ⟨"Heat (2)", some "1995", none⟩ := by
  intro film
  refine ⟨⟨by decide +kernel, by decide, by decide, by decide +kernel, ['a', 'v', 'i'], by decide,
    by decide, by simp⟩, by decide, ?_, _, compile_defaultPattern_film, ?_, ?_⟩
  · rintro _ ⟨⟩
    decide
  · decide +kernel
  · decide +kernel

end MediaShelf.Pattern
