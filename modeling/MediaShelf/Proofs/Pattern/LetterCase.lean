import MediaShelf.Pattern.Basic
import MediaShelf.Proofs.Pattern.Decoration
import MediaShelf.Proofs.Pattern.HeuristicCase
import MediaShelf.Proofs.Pattern.Match

/-!
# Reading paths without letter case

Two paths that differ in the case of ASCII letters alone follow the same patterns and are recognised
by the same heuristics. Numbers and years are read alike; only the letters of a term may differ, and
in case alone.

## Main definitions

* `ParsedEpisode.lowered`, `FilmDetails.lowered` — what was read, with the letters of the term
  lowered

## Main results

* `matchPath?_toLower` — the match of a path with a pattern
* `stripDecorations_toLower` — the decorations of a title
* `parseEpisode_toLower`, `matchFilm_toLower`, `parseFilm_toLower` — what is read from the path
  whose letters are lowered
* `parse_congr_toLower` — what is read from paths that differ in letter case
-/

namespace MediaShelf.Pattern

open Regex (Node Trace Found)
open Text (beq_toLower bne_toLower isBlank_toLower isDecimalDigit_toLower isEmpty_toLower
  map_ofList_toLower normalize_toLower ofList_map_toLower toLower_eq_iff)

/-! ### Expressions of patterns -/

theorem blind_decimalDigit : (Node.one Text.isDecimalDigit : Node Token).Blind Char.toLower :=
  isDecimalDigit_toLower

theorem blind_digits : digits.Blind Char.toLower := ⟨isDecimalDigit_toLower, isDecimalDigit_toLower⟩

theorem blind_ampersand : ampersand.Blind Char.toLower :=
  ⟨isBlank_toLower, blind_one (by decide), isBlank_toLower⟩

theorem blind_tokenNode (kind : Token) : (tokenNode kind).Blind Char.toLower := by
  have hname : (Node.many true (· != '/') : Node Token).Blind Char.toLower := bne_toLower rfl
  have hextension (c : Char) : (c.toLower != '.' && c.toLower != '/') = (c != '.' && c != '/') := by
    rw [bne_toLower rfl, bne_toLower rfl]
  cases kind with
  | season => exact blind_digits
  | part => exact blind_digits
  | year => exact .times blind_decimalDigit 4
  | episode => exact ⟨blind_digits, blind_ampersand, blind_digits⟩
  | extension => exact ⟨hextension, hextension⟩
  | showName => exact hname
  | title => exact hname
  | id => exact hname

mutual

theorem Segment.blind_node (segment : Segment) : segment.node.Blind Char.toLower := by
  match segment with
  | .literal text => exact blind_text text
  | .token kind => exact blind_tokenNode kind
  | .optional children => exact .opt (blind_node children) false

/-- The expression of a pattern does not see letter case. -/
theorem blind_node (segments : List Segment) : (node segments).Blind Char.toLower := by
  match segments with
  | [] => exact trivial
  | segment :: rest => exact ⟨segment.blind_node, blind_node rest⟩

end

/-- A path whose letters are lowered is matched in the same way. -/
theorem matchPath?_toLower (segments : List Segment) (path : List Char) :
    matchPath? segments (path.map Char.toLower) =
      (matchPath? segments path).map (Trace.map Char.toLower) :=
  Node.matchWhole?_map (blind_node segments) path

theorem capture?_map (trace : Trace Token) (kind : Token) :
    capture? (Trace.map Char.toLower trace) kind =
      (capture? trace kind).map (·.map Char.toLower) := by
  rw [capture?, capture?, Trace.group?_map]
  cases Trace.group? kind trace with
  | none => rfl
  | some text => cases text <;> rfl

theorem bind_readWord?_toLower (text? : Option (List Char)) :
    (text?.map (·.map Char.toLower)).bind Text.readWord? = text?.bind Text.readWord? := by
  rw [Option.bind_map]
  exact congrArg _ (funext Text.readWord?_toLower)

/-! ### Episodes -/

theorem readEpisodes?_toLower (text : List Char) :
    readEpisodes? (text.map Char.toLower) = readEpisodes? text := by
  have hpiece (piece : List Char) :
      Text.readWord? (Text.trim (piece.map Char.toLower)) = Text.readWord? (Text.trim piece) := by
    rw [Text.trim, Text.trimBy_map isBlank_toLower, Text.readWord?_toLower, Text.trim]
  rw [readEpisodes?, Text.splitBy_map (p := (· == '&')) (beq_toLower rfl), List.mapM_map]
  exact congrArg (List.mapM · _) (funext hpiece)

/-- What was read, with the letters of the term lowered. -/
def ParsedEpisode.lowered (parsed : ParsedEpisode) : ParsedEpisode :=
  { parsed with term := parsed.term.map String.toLower }

theorem matchEpisode?_toLower (pattern : Pattern) (path : List Char) :
    pattern.matchEpisode? (path.map Char.toLower) =
      (pattern.matchEpisode? path).map ParsedEpisode.lowered := by
  rw [matchEpisode?, matchEpisode?, matchPath?_toLower]
  cases matchPath? pattern.segments path with
  | none => rfl
  | some trace =>
    simp only [Option.map_some, Option.bind_eq_bind, Option.bind_some, capture?_map,
      map_ofList_toLower]
    cases capture? trace .season with
    | none => rfl
    | some digits =>
      simp only [Option.map_some, Option.bind_some, Text.readWord?_toLower]
      cases Text.readWord? digits with
      | none => rfl
      | some season =>
        cases capture? trace .episode with
        | none => rfl
        | some numbers =>
          simp only [Option.map_some, Option.bind_some, readEpisodes?_toLower]
          cases readEpisodes? numbers <;> rfl

theorem forwardSlashes_toLower (path : List Char) :
    forwardSlashes (path.map Char.toLower) = (forwardSlashes path).map Char.toLower := by
  rw [forwardSlashes, forwardSlashes, List.map_map, List.map_map]
  refine congrArg (List.map · path) (funext fun c => ?_)
  by_cases hc : c = '\\'
  · rw [hc]
    rfl
  · have hlower : c.toLower ≠ '\\' := mt (toLower_eq_iff rfl).mp hc
    rw [Function.comp_apply, Function.comp_apply, if_neg hc, if_neg hlower]

theorem lastComponent_toLower (path : List Char) :
    lastComponent (path.map Char.toLower) = (lastComponent path).map Char.toLower := by
  rw [lastComponent, ← List.map_reverse, Text.takeWhile_map (p := (· != '/')) (bne_toLower rfl),
    ← List.map_reverse, lastComponent]

/-- From a path whose letters are lowered the same is read, and the term lowered. -/
theorem parseEpisode_toLower (pattern : Pattern) (path : String) :
    pattern.parseEpisode path.toLower = (pattern.parseEpisode path).map ParsedEpisode.lowered := by
  have hrecognised (found : Recognised) : found.lowered.term.map String.ofList =
      (found.term.map String.ofList).map String.toLower := by
    rw [Recognised.lowered, map_ofList_toLower]
  simp only [parseEpisode, Text.toList_toLower, forwardSlashes_toLower, matchEpisode?_toLower,
    lastComponent_toLower, recognise?_toLower, Option.map_or, Option.map_map]
  refine congrArg _ (congrArg (Option.map · _) (funext fun found => ?_))
  rw [Function.comp_apply, Function.comp_apply, hrecognised]
  rfl

/-! ### Films -/

theorem blind_yearDecoration : yearDecoration.Blind Char.toLower :=
  ⟨blind_one (by decide), ⟨⟨⟨blind_one (by decide), blind_one (by decide)⟩,
    ⟨blind_one (by decide), blind_one (by decide)⟩⟩,
    ⟨isDecimalDigit_toLower, isDecimalDigit_toLower⟩⟩, blind_one (by decide)⟩

theorem blind_atWordEdge : (Node.look Regex.atWordEdge : Node Token).Blind Char.toLower := by
  intro before after
  simp only [Regex.atWordEdge, Regex.isWordAt, Option.any_map, Text.isWordChar_toLower]

theorem blind_partDecoration : partDecoration.Blind Char.toLower :=
  ⟨⟨Node.blind_atStart, blind_one (by decide)⟩, ⟨blind_text _, blind_text _, blind_text _⟩,
    blind_gap, ⟨isDecimalDigit_toLower, ⟨isDecimalDigit_toLower, trivial⟩, trivial⟩,
    blind_one (by decide), blind_atWordEdge⟩

/-- Years are digits, so they stay as they are. -/
theorem map_toLower_of_accepts_year {year : List Char} (h : Token.year.Accepts year) :
    year.map Char.toLower = year :=
  Text.map_toLower_of_isDecimalDigit h.2

theorem stripYear_toLower (title : List Char) :
    stripYear (title.map Char.toLower) =
      ((stripYear title).1.map Char.toLower, (stripYear title).2) := by
  rw [stripYear, stripYear, Node.find?_map blind_yearDecoration]
  cases hfind : yearDecoration.find? title with
  | none => rfl
  | some found =>
    simp only [Option.map_some, Found.group?_map]
    cases hgroup : found.group? .year with
    | none => rfl
    | some year =>
      have hyear : IsCenturyYear year :=
        isCenturyYear_of_yearDecoration (Node.find?_eq_some hfind).2 hgroup
      rw [Option.map_some, map_toLower_of_accepts_year hyear.accepts]
      simp [Found.map]

theorem stripPart_toLower (title : List Char) :
    stripPart (title.map Char.toLower) =
      ((stripPart title).1.map Char.toLower, (stripPart title).2) := by
  rw [stripPart, stripPart, Node.find?_map blind_partDecoration]
  cases partDecoration.find? title with
  | none => rfl
  | some found =>
    simp only [Option.map_some, Found.group?_map, bind_readWord?_toLower]
    cases (found.group? .part).bind Text.readWord? with
    | none => rfl
    | some part => simp [Found.map]

/-- The same decorations are taken off a title whose letters are lowered. -/
theorem stripDecorations_toLower (title : List Char) :
    stripDecorations (title.map Char.toLower) =
      { stripDecorations title with title := (stripDecorations title).title.map Char.toLower } := by
  simp only [stripDecorations, stripYear_toLower, stripPart_toLower]

/-- What was read, with the letters of the term lowered. -/
def FilmDetails.lowered (details : FilmDetails) : FilmDetails :=
  { details with term := details.term.toLower }

theorem matchFilm_toLower (pattern : Pattern) (path : String) :
    pattern.matchFilm path.toLower = (pattern.matchFilm path).map FilmDetails.lowered := by
  rw [matchFilm, matchFilm, Text.toList_toLower, forwardSlashes_toLower, matchPath?_toLower]
  cases htrace : matchPath? pattern.segments (forwardSlashes path.toList) with
  | none => rfl
  | some trace =>
    -- the group of a year holds nothing but digits, whatever else the pattern asks for
    have hyear : (capture? trace .year).map (·.map Char.toLower) = capture? trace .year := by
      cases hcapture : capture? trace .year with
      | none => rfl
      | some year =>
        have hgroup := (Option.filter_eq_some_iff.mp hcapture).1
        rw [Option.map_some, map_toLower_of_accepts_year (accepts_of_matchPath? htrace hgroup)]
    simp only [Option.map_some, Option.bind_eq_bind, Option.bind_some, capture?_map, hyear,
      bind_readWord?_toLower]
    cases capture? trace .title with
    | none => rfl
    | some title =>
      simp only [Option.map_some, Option.bind_some, stripDecorations_toLower,
        Text.collapseBlanks_toLower, List.isEmpty_map, ofList_map_toLower]
      split <;> rfl

/-- From a path whose letters are lowered the same is read, apart from the case of the term. -/
theorem parseFilm_toLower (pattern : Pattern) (path : String) :
    (pattern.parseFilm path.toLower).map FilmDetails.lowered =
      (pattern.parseFilm path).map FilmDetails.lowered := by
  rw [parseFilm, parseFilm, matchFilm_toLower]
  cases pattern.matchFilm path with
  | none => rfl
  | some details =>
    have hterm := normalize_toLower details.term
    have hempty : (Text.normalize details.term.toLower).isEmpty =
        (Text.normalize details.term).isEmpty := by
      rw [← isEmpty_toLower, hterm, isEmpty_toLower]
    simp only [Option.map_some, Option.bind_eq_bind, Option.bind_some, FilmDetails.lowered, hempty]
    split
    · rfl
    · exact congrArg (fun term => some { details with term }) hterm

/-! ### Paths that differ in letter case -/

/-- From paths that differ in the case of ASCII letters alone the same is read, apart from the case
of the letters of the term. -/
theorem parse_congr_toLower (pattern : Pattern) {path other : String}
    (h : path.toLower = other.toLower) :
    (pattern.parseEpisode path).map ParsedEpisode.lowered =
        (pattern.parseEpisode other).map ParsedEpisode.lowered ∧
      (pattern.parseFilm path).map FilmDetails.lowered =
        (pattern.parseFilm other).map FilmDetails.lowered := by
  -- what either path is read as is decided by the path that both are lowered to
  constructor
  · rw [← parseEpisode_toLower, ← parseEpisode_toLower, h]
  · rw [← parseFilm_toLower pattern path, h, parseFilm_toLower]

/-- A name in capitals, of which the episode is recognised and the decorations are taken off. -/
theorem parse_congr_toLower_capitals :
    let pattern : Pattern := ⟨"%t.%x", [.token .title, .literal ['.'], .token .extension]⟩
    let path := "The Film s02e05 (1999) CD1.mkv"
    let other := "THE FILM S02E05 (1999) cd1.MKV"
    path.toLower = other.toLower ∧
      ((pattern.parseEpisode path).map ParsedEpisode.lowered =
          (pattern.parseEpisode other).map ParsedEpisode.lowered ∧
        (pattern.parseFilm path).map FilmDetails.lowered =
          (pattern.parseFilm other).map FilmDetails.lowered) ∧
      pattern.parseEpisode other = some ⟨2, [5], .heuristic .seasonEpisode, some "THE FILM"⟩ ∧
      pattern.parseFilm other = some ⟨"THE FILM S02E05", some "1999", some 1⟩ := by
  intro pattern path other
  have hcase : path.toLower = other.toLower := by
    rw [← String.toList_inj, Text.toList_toLower, Text.toList_toLower]
    decide
  exact ⟨hcase, parse_congr_toLower pattern hcase, by decide +kernel, by decide +kernel⟩

end MediaShelf.Pattern
