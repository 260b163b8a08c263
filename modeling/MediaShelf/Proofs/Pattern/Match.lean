import MediaShelf.Proofs.Pattern.EpisodePath
import MediaShelf.Proofs.Pattern.Piece

/-!
# What a match tells of a path

A path that is said to follow its pattern does so: it is made of the literal texts of the pattern,
in any letter case, and of texts of its tokens, with some of the optional groups left out. The
numbers that are read from it are the values of the first texts that stand for them.

## Main definitions

* `Denotes`, `DenoteAll` — the number that digits stand for, and the numbers of several episodes
* `firstValue?` — the first text of a token among pieces
* `Spells` — the paths that pieces make up, in any letter case of their literal texts
* `Passes` — the pieces that a trace goes through

## Main results

* `denoteAll_of_readEpisodes?` — what is read from the text of episodes are the numbers in it
* `Spells.sameLetters` — but for letter case the path is the pieces one after the other
* `exists_passes_of_reads` — every way to match a pattern goes through pieces of it
* `exists_reads_of_takes` — what pieces of a pattern make up is matched
* `parseEpisode_spells` — season, episodes and name of a path that follows its pattern
-/

namespace MediaShelf.Pattern

open Regex (Node Trace)

/-! ### Numbers -/

/-- The text is the number in ASCII digits, with any zeros in front. -/
structure Denotes (text : List Char) (n : UInt32) : Prop where
  ne_nil : text ≠ []
  digits : ∀ c ∈ text, c.isDigit
  value : Nat.ofDigitChars 10 text 0 = n.toNat

/-- The text is the numbers in order, with an ampersand and any blanks around it between
neighbours. -/
inductive DenoteAll : List Char → List UInt32 → Prop
  | last {number : List Char} {n : UInt32} : Denotes number n → DenoteAll number [n]
  | cons {number left right rest : List Char} {n : UInt32} {more : List UInt32} :
      Denotes number n → (∀ c ∈ left, Text.isBlank c) → (∀ c ∈ right, Text.isBlank c) →
      DenoteAll rest more → DenoteAll (number ++ left ++ '&' :: (right ++ rest)) (n :: more)

variable {text front number more : List Char} {n : UInt32} {numbers : List UInt32}

/-- Digits that are read are those of the number. -/
theorem denotes_of_readWord? (htext : IsDigits text) (h : Text.readWord? text = some n) :
    Denotes text n := by
  -- no sign is dropped, as it would not be a digit
  have hplus : ∀ rest, text = '+' :: rest → False := by
    rintro rest rfl
    exact absurd (htext.2 '+' List.mem_cons_self) (by decide)
  rw [Text.readWord?.eq_2 _ hplus, Text.readDigits?] at h
  by_cases hall : !text.isEmpty && text.all Char.isDigit
  · rw [if_pos hall] at h
    obtain ⟨hsmall, hvalue⟩ := Option.ite_none_right_eq_some.mp h
    obtain rfl := Option.some.inj hvalue
    refine ⟨htext.1, by simpa [htext.1] using hall, ?_⟩
    rw [Nat.toUInt32_eq, UInt32.toNat_ofNat_of_lt' hsmall]
  · rw [if_neg hall] at h
    cases h

/-- What is read from the text of episodes are the numbers in it, also with blanks in front. -/
theorem denoteAll_of_readEpisodes? (hfront : ∀ c ∈ front, Text.isBlank c)
    (hnumber : IsDigits number) (hmore : IsMoreNumbers more)
    (h : readEpisodes? (front ++ (number ++ more)) = some numbers) :
    DenoteAll (number ++ more) numbers := by
  -- the blanks behind an ampersand are those in front of the next number
  induction hmore generalizing front number numbers with
  | nil =>
    have hone := readEpisodes?_padded hfront hnumber (List.forall_mem_nil _)
    rw [List.append_nil] at hone h ⊢
    rw [hone] at h
    obtain ⟨n, hn, rfl⟩ := Option.map_eq_some_iff.mp h
    exact .last (denotes_of_readWord? hnumber hn)
  | @cons left right next rest hleft hright hnext _ ih =>
    have htext : front ++ (number ++ (left ++ '&' :: right ++ next ++ rest)) =
        front ++ number ++ left ++ '&' :: (right ++ (next ++ rest)) := by simp
    rw [htext, readEpisodes?_padded_cons hfront hnumber hleft] at h
    obtain ⟨n, hn, hnumbers⟩ := Option.bind_eq_some_iff.mp h
    obtain ⟨others, hothers, rfl⟩ := Option.map_eq_some_iff.mp hnumbers
    have hrest := DenoteAll.cons (denotes_of_readWord? hnumber hn) hleft hright
      (ih hright hnext hothers)
    rwa [show number ++ left ++ '&' :: (right ++ (next ++ rest)) =
      number ++ (left ++ '&' :: right ++ next ++ rest) by simp] at hrest

/-! ### Pieces of a match -/

/-- The text of the first piece for the token. -/
def firstValue? (kind : Token) : List Piece → Option (List Char)
  | [] => none
  | .literal _ :: row => firstValue? kind row
  | .value other text :: row => if other = kind then some text else firstValue? kind row

/-- The path consists of the pieces one after the other, where literal texts may stand in another
letter case. -/
inductive Spells : List Piece → List Char → Prop
  | nil : Spells [] []
  | literal {text run path : List Char} {row : List Piece} :
      List.Forall₂ (fun c d => Text.sameLetter c d) text run → Spells row path →
      Spells (.literal text :: row) (run ++ path)
  | value (kind : Token) (text : List Char) {path : List Char} {row : List Piece} :
      Spells row path → Spells (.value kind text :: row) (text ++ path)

/-- The trace goes through the pieces, each of which its literal text or its token allows. -/
inductive Passes : List Piece → Trace Token → Prop
  | nil : Passes [] []
  | literal {text run : List Char} {row : List Piece} {trace : Trace Token} :
      List.Forall₂ (fun c d => Text.sameLetter c d) text run → Passes row trace →
      Passes (.literal text :: row) (run.map .char ++ trace)
  | value {kind : Token} {text : List Char} {row : List Piece} {trace : Trace Token} :
      kind.Accepts text → Passes row trace →
      Passes (.value kind text :: row) (groupTrace kind text ++ trace)

theorem mem_of_firstValue? {kind : Token} {row : List Piece}
    (h : firstValue? kind row = some text) : .value kind text ∈ row := by
  induction row with
  | nil => cases h
  | cons piece row ih =>
    cases piece with
    | literal _ => exact List.mem_cons_of_mem _ (ih h)
    | value other _ =>
      rw [firstValue?] at h
      split at h
      · rename_i hsame
        rw [hsame, Option.some.inj h]
        exact List.mem_cons_self
      · exact List.mem_cons_of_mem _ (ih h)

/-- But for letter case the path is that of the pieces. -/
theorem Spells.sameLetters {row : List Piece} {path : List Char} (h : Spells row path) :
    List.Forall₂ (fun c d => Text.sameLetter c d) (spell row) path := by
  induction h with
  | nil => exact .nil
  | literal hrun _ ih => exact List.rel_append hrun ih
  | value kind text _ ih =>
    exact List.rel_append (List.forall₂_same.mpr fun c _ => by simp [Text.sameLetter]) ih

namespace Passes

variable {row back : List Piece} {trace rest : Trace Token}

theorem append (h : Passes row trace) (hback : Passes back rest) :
    Passes (row ++ back) (trace ++ rest) := by
  induction h with
  | nil => exact hback
  | literal hrun _ ih =>
    rw [List.append_assoc]
    exact .literal hrun ih
  | value htext _ ih =>
    rw [List.append_assoc]
    exact .value htext ih

theorem spells (h : Passes row trace) : Spells row (Trace.text trace) := by
  induction h with
  | nil => exact .nil
  | literal hrun _ ih =>
    rw [Trace.text_append, Trace.text_chars]
    exact .literal hrun ih
  | value _ _ ih =>
    rw [Trace.text_append, text_groupTrace]
    exact .value _ _ ih

theorem accepts (h : Passes row trace) {kind : Token} (hmem : .value kind text ∈ row) :
    kind.Accepts text := by
  induction h with
  | nil => cases hmem
  | literal _ _ ih => exact ih (by simpa using hmem)
  | value htext _ ih =>
    rcases List.mem_cons.mp hmem with heq | hmem
    · cases heq
      exact htext
    · exact ih hmem

/-- The first group for a token is the first piece for it. -/
theorem group?_eq (h : Passes row trace) (kind : Token) :
    Trace.group? kind trace = firstValue? kind row := by
  induction h with
  | nil => rfl
  | literal _ _ ih => rw [Trace.group?_chars, ih, firstValue?]
  | value _ _ ih => rw [group?_groupTrace, ih, firstValue?]

end Passes

mutual

theorem Segment.exists_passes_of_reads (segment : Segment) {before : Option Char}
    {after : List Char} {trace : Trace Token} (h : segment.node.Reads before after trace) :
    ∃ row, segment.Takes row ∧ Passes row trace := by
  match segment with
  | .literal text =>
    obtain ⟨run, hrun, rfl⟩ := Node.reads_text.mp h
    have hone := Passes.literal hrun .nil
    rw [List.append_nil] at hone
    exact ⟨_, rfl, hone⟩
  | .token kind =>
    obtain ⟨_, hinner, rfl⟩ := h
    obtain ⟨text, htext, rfl⟩ := reads_tokenNode.mp hinner
    have hone := Passes.value htext .nil
    rw [List.append_nil] at hone
    exact ⟨_, ⟨text, rfl⟩, hone⟩
  | .optional children =>
    rcases h with h | rfl
    · obtain ⟨row, htakes, hpasses⟩ := exists_passes_of_reads children h
      exact ⟨row, .inl htakes, hpasses⟩
    · exact ⟨[], .inr rfl, .nil⟩

/-- Every way to match a row of segments goes through pieces of it. -/
theorem exists_passes_of_reads (segments : List Segment) {before : Option Char} {after : List Char}
    {trace : Trace Token} (h : (node segments).Reads before after trace) :
    ∃ row, Takes segments row ∧ Passes row trace := by
  match segments with
  | [] =>
    obtain rfl := h
    exact ⟨[], rfl, .nil⟩
  | segment :: rest =>
    obtain ⟨_, _, hfront, hback, rfl⟩ := h
    obtain ⟨front, htakes, hpasses⟩ := segment.exists_passes_of_reads hfront
    obtain ⟨back, hrest, hbehind⟩ := exists_passes_of_reads rest hback
    exact ⟨front ++ back, ⟨front, back, htakes, hrest, rfl⟩, hpasses.append hbehind⟩

end

mutual

theorem Segment.exists_reads_of_takes (segment : Segment) {row : List Piece}
    (h : segment.Takes row) (haccepts : ∀ kind text, .value kind text ∈ row → kind.Accepts text) :
    ∃ trace, (∀ before after, segment.node.Reads before after trace) ∧
      Trace.text trace = spell row := by
  match segment with
  | .literal text =>
    obtain rfl := h
    have hself : List.Forall₂ (fun c d => Text.sameLetter c d) text text :=
      List.forall₂_same.mpr fun c _ => beq_self_eq_true (Text.foldCase c)
    exact ⟨text.map .char, fun _ _ => Node.reads_text.mpr ⟨text, hself, rfl⟩,
      by simp [spell, Piece.text]⟩
  | .token kind =>
    obtain ⟨text, rfl⟩ := h
    refine ⟨groupTrace kind text, fun _ _ => ⟨_, reads_tokenNode.mpr
      ⟨text, haccepts kind text List.mem_cons_self, rfl⟩, rfl⟩, ?_⟩
    simp [spell, Piece.text]
  | .optional children =>
    rcases h with h | rfl
    · obtain ⟨trace, hreads, htext⟩ := exists_reads_of_takes children h haccepts
      exact ⟨trace, fun before after => .inl (hreads before after), htext⟩
    · exact ⟨[], fun _ _ => .inr rfl, rfl⟩

/-- What pieces of a row of segments make up is matched by it, if its tokens stand for the
values. -/
theorem exists_reads_of_takes (segments : List Segment) {row : List Piece}
    (h : Takes segments row) (haccepts : ∀ kind text, .value kind text ∈ row → kind.Accepts text) :
    ∃ trace, (∀ before after, (node segments).Reads before after trace) ∧
      Trace.text trace = spell row := by
  match segments with
  | [] =>
    obtain rfl := h
    exact ⟨[], fun _ _ => rfl, rfl⟩
  | segment :: rest =>
    obtain ⟨front, back, hfront, hback, rfl⟩ := h
    obtain ⟨lead, hlead, hleadText⟩ := segment.exists_reads_of_takes hfront
      fun kind text hmem => haccepts kind text (List.mem_append_left _ hmem)
    obtain ⟨tail, htail, htailText⟩ := exists_reads_of_takes rest hback
      fun kind text hmem => haccepts kind text (List.mem_append_right _ hmem)
    refine ⟨lead ++ tail, fun _ _ => ⟨lead, tail, hlead _ _, htail _ _, rfl⟩, ?_⟩
    rw [Trace.text_append, hleadText, htailText]
    exact List.flatMap_append.symm

end

/-- A text that pieces of a pattern make up is matched. -/
theorem exists_matchPath?_spell {segments : List Segment} {row : List Piece}
    (h : Takes segments row) (haccepts : ∀ kind text, .value kind text ∈ row → kind.Accepts text) :
    ∃ trace, matchPath? segments (spell row) = some trace := by
  obtain ⟨trace, hreads, htext⟩ := exists_reads_of_takes segments h haccepts
  rw [← htext]
  exact Option.isSome_iff_exists.mp (Node.isSome_matchWhole? (hreads none []))

/-- What is captured for a token is a text that the token stands for. -/
theorem accepts_of_matchPath? {segments : List Segment} {path : List Char} {trace : Trace Token}
    {kind : Token} (h : matchPath? segments path = some trace)
    (hgroup : Trace.group? kind trace = some text) : kind.Accepts text := by
  obtain ⟨row, -, hpasses⟩ := exists_passes_of_reads segments (Node.matchWhole?_reads h).1
  rw [hpasses.group?_eq] at hgroup
  exact hpasses.accepts (mem_of_firstValue? hgroup)

/-! ### Episodes of a path -/

variable {pattern : Pattern} {path : String} {parsed : ParsedEpisode}

/-- What is found by the pattern is a match of the path with its backslashes read as slashes. -/
theorem matchEpisode?_of_parseEpisode (h : pattern.parseEpisode path = some parsed)
    (hmatched : parsed.matchedBy = .pattern) :
    pattern.matchEpisode? (forwardSlashes path.toList) = some parsed := by
  rw [parseEpisode, Option.or_eq_some_iff] at h
  rcases h with h | ⟨-, h⟩
  · exact h
  · obtain ⟨found, -, rfl⟩ := Option.map_eq_some_iff.mp h
    cases hmatched

/-- Every piece between ampersands gives a number, and there is one piece at least. -/
theorem readEpisodes?_ne_nil (h : readEpisodes? text = some numbers) : numbers ≠ [] := by
  obtain ⟨piece, pieces, hsplit⟩ :=
    List.exists_cons_of_ne_nil (Text.splitBy_ne_nil (p := (· == '&')) text)
  rw [readEpisodes?, hsplit, List.mapM_cons] at h
  obtain ⟨first, -, h⟩ := Option.bind_eq_some_iff.mp h
  obtain ⟨others, -, h⟩ := Option.bind_eq_some_iff.mp h
  obtain rfl := Option.some.inj h
  exact List.cons_ne_nil first others

/-- However a path is read, it gives an episode. -/
theorem episodes_ne_nil_of_parseEpisode (h : pattern.parseEpisode path = some parsed) :
    parsed.episodes ≠ [] := by
  rw [parseEpisode, Option.or_eq_some_iff] at h
  rcases h with h | ⟨-, h⟩
  · simp only [matchEpisode?, Option.bind_eq_bind, Option.pure_def, Option.bind_eq_some_iff,
      Option.some.injEq] at h
    obtain ⟨_, -, _, -, _, -, _, -, episodes, hepisodes, rfl⟩ := h
    exact readEpisodes?_ne_nil hepisodes
  · -- a heuristic puts the episode of its hit in front of those that follow
    obtain ⟨found, hfound, rfl⟩ := Option.map_eq_some_iff.mp h
    obtain ⟨heuristic, -, hhit⟩ := List.exists_of_findSome?_eq_some hfound
    obtain ⟨hit, -, rfl⟩ := Option.map_eq_some_iff.mp hhit
    exact List.cons_ne_nil _ _

/-- What is captured for a token is the first text of it, and not empty. -/
theorem capture?_eq_some {row : List Piece} {trace : Trace Token} (h : Passes row trace)
    {kind : Token} :
    capture? trace kind = some text ↔ firstValue? kind row = some text ∧ text ≠ [] := by
  rw [capture?, h.group?_eq, Option.filter_eq_some_iff]
  simp

/-- A path that is said to follow the pattern consists of literal texts of the pattern, in any
letter case, and of texts that its tokens stand for, with some of the optional groups left out.
Season and episodes are the values of the first texts for them, and the name, if there is one, is
not empty and the text of a name in the path. -/
theorem parseEpisode_spells (pattern : Pattern) (path : String) (parsed : ParsedEpisode)
    (h : pattern.parseEpisode path = some parsed) (hmatched : parsed.matchedBy = .pattern) :
    ∃ row, Takes pattern.segments row ∧
      (∀ kind text, .value kind text ∈ row → kind.Accepts text) ∧
      Spells row (forwardSlashes path.toList) ∧
      (∃ text, firstValue? .season row = some text ∧ Denotes text parsed.season) ∧
      (∃ text, firstValue? .episode row = some text ∧ DenoteAll text parsed.episodes) ∧
      ∀ term, parsed.term = some term → term ≠ "" ∧ .value .showName term.toList ∈ row := by
  have hepisode := matchEpisode?_of_parseEpisode h hmatched
  simp only [matchEpisode?, Option.bind_eq_bind, Option.pure_def, Option.bind_eq_some_iff,
    Option.some.injEq] at hepisode
  obtain ⟨trace, htrace, seasonText, hseasonText, season, hseason, episodeText, hepisodeText,
    episodes, hepisodes, rfl⟩ := hepisode
  -- the trace goes through pieces of the pattern, and the first of them are what it captures
  obtain ⟨hreads, hwhole⟩ := Node.matchWhole?_reads htrace
  obtain ⟨row, htakes, hpasses⟩ := exists_passes_of_reads pattern.segments hreads
  have haccepts : ∀ kind text, .value kind text ∈ row → kind.Accepts text :=
    fun kind text hmem => hpasses.accepts hmem
  obtain ⟨hfirstSeason, -⟩ := (capture?_eq_some hpasses).mp hseasonText
  obtain ⟨hfirstEpisode, -⟩ := (capture?_eq_some hpasses).mp hepisodeText
  have hdigits : IsDigits seasonText := haccepts .season _ (mem_of_firstValue? hfirstSeason)
  obtain ⟨number, more, hnumber, hmore, rfl⟩ : Token.episode.Accepts episodeText :=
    haccepts .episode _ (mem_of_firstValue? hfirstEpisode)
  refine ⟨row, htakes, haccepts, hwhole ▸ hpasses.spells,
    ⟨seasonText, hfirstSeason, denotes_of_readWord? hdigits hseason⟩,
    ⟨number ++ more, hfirstEpisode,
      denoteAll_of_readEpisodes? (List.forall_mem_nil _) hnumber hmore hepisodes⟩,
    fun term hterm => ?_⟩
  obtain ⟨name, hname, rfl⟩ := Option.map_eq_some_iff.mp hterm
  obtain ⟨hfirstName, hne⟩ := (capture?_eq_some hpasses).mp hname
  rw [String.toList_ofList]
  exact ⟨fun hempty => hne (by simpa using congrArg String.toList hempty),
    mem_of_firstValue? hfirstName⟩

/-- A path with backslashes, in another letter case, with a group left out and a season twice. -/
theorem parseEpisode_spells_mixed :
    let pattern : Pattern := ⟨"%n\x7b (%y)\x7d/season %s/%sx%e\x7b - %t\x7d.%x",
      [.token .showName, .optional [.literal [' ', '('], .token .year, .literal [')']],
        .literal ['/', 's', 'e', 'a', 's', 'o', 'n', ' '], .token .season, .literal ['/'],
        .token .season, .literal ['x'], .token .episode,
        .optional [.literal [' ', '-', ' '], .token .title], .literal ['.'], .token .extension]⟩
    let path := "Heroes\\SEASON 04\\5X06 &07 - X.mkv"
    let parsed : ParsedEpisode :=
      { season := 4, episodes := [6, 7], matchedBy := .pattern, term := some "Heroes" }
    Pattern.compile pattern.source = .ok pattern ∧ pattern.parseEpisode path = some parsed ∧
      parsed.matchedBy = .pattern ∧
      ∃ row, Takes pattern.segments row ∧ Spells row (forwardSlashes path.toList) ∧
        (∃ text, firstValue? .season row = some text ∧ Denotes text 4) ∧
        (∃ text, firstValue? .episode row = some text ∧ DenoteAll text [6, 7]) ∧
        .value .showName "Heroes".toList ∈ row := by
  intro pattern path parsed
  have hcompile : Pattern.compile pattern.source = .ok pattern :=
    compile_of_segments (by simp only [pattern]; rfl) (by decide)
  have hparsed : pattern.parseEpisode path = some parsed := by decide +kernel
  obtain ⟨row, htakes, -, hspells, hseason, hepisodes, hterm⟩ :=
    parseEpisode_spells pattern path parsed hparsed rfl
  exact ⟨hcompile, hparsed, rfl, row, htakes, hspells, hseason, hepisodes, (hterm _ rfl).2⟩

end MediaShelf.Pattern
