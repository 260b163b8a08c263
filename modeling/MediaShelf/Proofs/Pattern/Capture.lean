import MediaShelf.Proofs.Pattern.Match

/-!
# Which text of a token counts

A token may stand in a pattern more than once, inside and outside of optional groups, and a name may
be matched by no character at all. Of the texts that a match has for a token the first one counts,
and if it is empty the token counts as missing. That is the first text which is not empty, unless an
empty one in front of it hides it. Numbers, years and extensions are never empty, so only names,
titles and ids are hidden.

## Main definitions

* `texts` — the texts of a token among pieces, in order
* `firstText?` — the first of them that is not empty
* `hides` — whether an empty text keeps another one from being seen
* `usedText?` — the text that counts
* `episodeOf`, `filmOf` — what is read from a text for each token

## Main results

* `capture?_eq_usedText?` — what is captured is the text that counts
* `isName_of_hides` — only names, titles and ids are hidden
* `parse_firstText?` — episodes and films are read from the first texts that are not empty, as far
  as these are not hidden
-/

namespace MediaShelf.Pattern

open Regex (Node Trace)

variable {kind : Token} {row : List Piece} {trace : Trace Token}

/-! ### Texts of a token -/

/-- The texts of the token among the pieces, in order. -/
def texts (kind : Token) : List Piece → List (List Char)
  | [] => []
  | .literal _ :: row => texts kind row
  | .value other text :: row => if other = kind then text :: texts kind row else texts kind row

/-- The first text of the token that is not empty. -/
def firstText? (kind : Token) (row : List Piece) : Option (List Char) :=
  (texts kind row).find? (! ·.isEmpty)

/-- Whether the first text of the token is empty and a later one is not. -/
def hides (kind : Token) (row : List Piece) : Bool :=
  match texts kind row with
  | [] :: later => later.any (! ·.isEmpty)
  | _ => false

/-- The first text of the token that is not empty, unless it is hidden. -/
def usedText? (row : List Piece) (kind : Token) : Option (List Char) :=
  if hides kind row then none else firstText? kind row

theorem firstValue?_eq_head? (kind : Token) (row : List Piece) :
    firstValue? kind row = (texts kind row).head? := by
  induction row with
  | nil => rfl
  | cons piece row ih =>
    cases piece with
    | literal text => exact ih
    | value other text =>
      rw [firstValue?, texts]
      by_cases hkind : other = kind
      · rw [if_pos hkind, if_pos hkind, List.head?_cons]
      · rw [if_neg hkind, if_neg hkind, ih]

theorem mem_texts_iff {text : List Char} : text ∈ texts kind row ↔ .value kind text ∈ row := by
  induction row with
  | nil => simp [texts]
  | cons piece row ih =>
    cases piece with
    | literal other => simp [texts, ih]
    | value other found =>
      rw [texts]
      by_cases hkind : other = kind
      · rw [if_pos hkind, List.mem_cons, List.mem_cons, ih, hkind, Piece.value.injEq]
        simp
      · rw [if_neg hkind, ih, List.mem_cons, Piece.value.injEq]
        simp [Ne.symm hkind]

/-- The first text counts if it is not empty, and otherwise none does. -/
theorem usedText?_eq_filter (kind : Token) (row : List Piece) :
    usedText? row kind = (texts kind row).head?.filter (! ·.isEmpty) := by
  unfold usedText? hides firstText?
  cases texts kind row with
  | nil => rfl
  | cons first later =>
    cases first with
    | cons c first => rfl
    | nil =>
      -- a later text is found only if there is one, and then it is hidden
      cases hany : later.any (! ·.isEmpty) with
      | true => simp [hany, Option.filter]
      | false =>
        have hnone : later.find? (! ·.isEmpty) = none :=
          List.find?_eq_none.mpr (List.any_eq_false.mp hany)
        simp [hnone, Option.filter]

/-- What is captured for a token is the text that counts. -/
theorem Passes.capture?_eq_usedText? (h : Passes row trace) (kind : Token) :
    capture? trace kind = usedText? row kind := by
  rw [capture?, h.group?_eq, firstValue?_eq_head?, usedText?_eq_filter]

/-- Only what may be matched by no character at all is hidden. -/
theorem Passes.isName_of_hides (h : Passes row trace) (hhides : hides kind row) :
    kind ∈ [.showName, .title, .id] := by
  have hempty : .value kind [] ∈ row := by
    rw [← mem_texts_iff]
    unfold hides at hhides
    split at hhides
    · rename_i later htexts
      rw [htexts]
      exact List.mem_cons_self
    · cases hhides
  have haccepts := h.accepts hempty
  cases kind with
  | showName | title | id => simp
  | season | part => exact absurd rfl haccepts.1
  | year => exact absurd haccepts.1 (by decide)
  | extension => exact absurd rfl haccepts.1
  | episode =>
    obtain ⟨number, more, hnumber, -, hsplit⟩ := haccepts
    exact absurd (List.append_eq_nil_iff.mp hsplit.symm).1 hnumber.1

/-! ### Readers -/

/-- Season, episodes and name from a text for each token. -/
def episodeOf (text? : Token → Option (List Char)) : Option ParsedEpisode := do
  let season ← Text.readWord? (← text? .season)
  let episodes ← readEpisodes? (← text? .episode)
  pure ⟨season, episodes, .pattern, (text? .showName).map String.ofList⟩

/-- Title, year and part from a text for each token, where a title may hold the other two. -/
def filmOf (text? : Token → Option (List Char)) : Option FilmDetails := do
  let bare := stripDecorations (← text? .title)
  let year := (text? .year).or bare.year
  let part := ((text? .part).bind Text.readWord?).or bare.part
  let term := Text.collapseBlanks bare.title
  if term.isEmpty then none
  else some ⟨String.ofList term, year.map String.ofList, part⟩

/-- The details with the normalized term, unless nothing is left of that. -/
def FilmDetails.normal? (details : FilmDetails) : Option FilmDetails :=
  let term := Text.normalize details.term
  if term.isEmpty then none else some { details with term }

variable {pattern : Pattern} {path : String}

theorem matchEpisode?_of_matchPath? {path : List Char}
    (h : matchPath? pattern.segments path = some trace) :
    pattern.matchEpisode? path = episodeOf (capture? trace) := by
  rw [matchEpisode?, h]
  rfl

theorem matchFilm_of_matchPath?
    (h : matchPath? pattern.segments (forwardSlashes path.toList) = some trace) :
    pattern.matchFilm path = filmOf (capture? trace) := by
  rw [matchFilm, h]
  rfl

/-- A path that is matched goes through pieces of the pattern in order. For each token the first
text that is not empty is captured, unless an empty text stands in front of it; then the token
counts as missing. This happens to names, titles and ids alone, and episodes and films are read from
the texts that are left. -/
theorem parse_firstText? (pattern : Pattern) (path : String) (trace : Trace Token)
    (h : matchPath? pattern.segments (forwardSlashes path.toList) = some trace) :
    ∃ row, Takes pattern.segments row ∧ Passes row trace ∧
      Spells row (forwardSlashes path.toList) ∧
      (∀ kind, capture? trace kind = if hides kind row then none else firstText? kind row) ∧
      (∀ kind, hides kind row → kind ∈ [.showName, .title, .id]) ∧
      pattern.parseEpisode path = (episodeOf (usedText? row)).or
        ((recognise? (lastComponent (forwardSlashes path.toList))).map fun found =>
          ⟨found.season, found.episodes, .heuristic found.heuristic,
            found.term.map String.ofList⟩) ∧
      pattern.matchFilm path = filmOf (usedText? row) ∧
      pattern.parseFilm path = (filmOf (usedText? row)).bind FilmDetails.normal? := by
  obtain ⟨hreads, hwhole⟩ := Node.matchWhole?_reads h
  obtain ⟨row, htakes, hpasses⟩ := exists_passes_of_reads pattern.segments hreads
  have hused : capture? trace = usedText? row := by
    funext kind
    exact hpasses.capture?_eq_usedText? kind
  have hfilm : pattern.matchFilm path = filmOf (usedText? row) := by
    rw [← hused]
    exact matchFilm_of_matchPath? h
  refine ⟨row, htakes, hpasses, hwhole ▸ hpasses.spells, ?_, ?_, ?_, hfilm, ?_⟩
  · exact hpasses.capture?_eq_usedText?
  · intro kind
    exact hpasses.isName_of_hides
  · rw [← hused, ← matchEpisode?_of_matchPath? h]
    rfl
  · rw [← hfilm]
    rfl

/-- A folder and a file name with the show, which is empty in the second, and two episodes in a row,
one of them in a group. -/
theorem parse_firstText?_repeated :
    let pattern : Pattern := ⟨"%n/\x7b%n \x7dS%sE%e\x7b E%e\x7d.%x",
      [.token .showName, .literal ['/'], .optional [.token .showName, .literal [' ']],
        .literal ['S'], .token .season, .literal ['E'], .token .episode,
        .optional [.literal [' ', 'E'], .token .episode], .literal ['.'], .token .extension]⟩
    let path := "Heroes/ S01E02 E03.mkv"
    Pattern.compile pattern.source = .ok pattern ∧
      ∃ trace, matchPath? pattern.segments (forwardSlashes path.toList) = some trace ∧
        ∃ row, Takes pattern.segments row ∧ Passes row trace ∧
          (∀ kind, capture? trace kind = if hides kind row then none else firstText? kind row) ∧
          pattern.parseEpisode path =
            some
              { season := 1, episodes := [2], matchedBy := .pattern, term := some "Heroes" } := by
  intro pattern path
  have hcompile : Pattern.compile pattern.source = .ok pattern :=
    compile_of_segments (by simp only [pattern]; rfl) (by decide)
  have hmatched : (matchPath? pattern.segments (forwardSlashes path.toList)).isSome := by
    decide +kernel
  obtain ⟨trace, htrace⟩ := Option.isSome_iff_exists.mp hmatched
  obtain ⟨row, htakes, hpasses, -, hcaptures, -⟩ := parse_firstText? pattern path trace htrace
  exact ⟨hcompile, trace, htrace, row, htakes, hpasses, hcaptures, by decide +kernel⟩

/-- An empty title in a group hides the one behind it, so that the film is not found. -/
theorem parse_firstText?_hidden :
    let pattern : Pattern := ⟨"\x7b%t - \x7d%t.%x",
      [.optional [.token .title, .literal [' ', '-', ' ']], .token .title, .literal ['.'],
        .token .extension]⟩
    let path := " - Heat.avi"
    let row : List Piece := [.value .title [], .literal [' ', '-', ' '],
      .value .title ['H', 'e', 'a', 't'], .literal ['.'], .value .extension ['a', 'v', 'i']]
    Pattern.compile pattern.source = .ok pattern ∧
      ∃ trace, matchPath? pattern.segments (forwardSlashes path.toList) = some trace ∧
        Takes pattern.segments row ∧ Passes row trace ∧
        firstText? .title row = some ['H', 'e', 'a', 't'] ∧ capture? trace .title = none ∧
        pattern.parseFilm path = none ∧
        (filmOf (firstText? · row)).bind FilmDetails.normal? = some { term := "Heat" } := by
  intro pattern path row
  have hcompile : Pattern.compile pattern.source = .ok pattern :=
    compile_of_segments (by simp only [pattern]; rfl) (by decide)
  have hself (text : List Char) : List.Forall₂ (fun c d => Text.sameLetter c d) text text :=
    List.forall₂_same.mpr fun c _ => beq_self_eq_true (Text.foldCase c)
  have htakes : Takes pattern.segments row :=
    ⟨_, _, .inl ⟨_, _, ⟨[], rfl⟩, ⟨_, _, rfl, rfl, rfl⟩, rfl⟩,
      ⟨_, _, ⟨_, rfl⟩, ⟨_, _, rfl, ⟨_, _, ⟨_, rfl⟩, rfl, rfl⟩, rfl⟩, rfl⟩, rfl⟩
  have hpasses : Passes row (groupTrace .title [] ++ ([' ', '-', ' '].map .char ++
      (groupTrace .title ['H', 'e', 'a', 't'] ++ (['.'].map .char ++
        (groupTrace .extension ['a', 'v', 'i'] ++ []))))) := by
    refine .value (by simp [Token.Accepts]) (.literal (hself _) (.value ?_ (.literal (hself _) ?_)))
    · simp [Token.Accepts]
    · exact .value (by simp [Token.Accepts]) .nil
  exact ⟨hcompile, _, by decide +kernel, htakes, hpasses, by decide, by decide, by decide +kernel,
    by decide +kernel⟩

end MediaShelf.Pattern
