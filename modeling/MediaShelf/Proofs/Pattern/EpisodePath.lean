import MediaShelf.Config.MediaDirectory
import MediaShelf.Proofs.Pattern.Render
import MediaShelf.Proofs.Text.CaseFold
import MediaShelf.Proofs.Text.Lowercase
import MediaShelf.Proofs.Text.Split

/-!
# The usual pattern of episodes, both ways

A path that was rendered by the pattern of directories that name none is read as the metadata it
was rendered from. Names and titles may hold anything; what separates the tokens is told by the
first slash, by the end of digits and by the first hyphen behind the episodes.

## Main definitions

* `episodeSegments` — the segments of the usual pattern

## Main results

* `readEpisodes?_padded`, `readEpisodes?_padded_cons` — numbers of episodes with blanks around them
* `readEpisodes?_writeEpisodes` — written episodes are read
* `group?_of_reads` — the groups of the pattern's traces
* `parseEpisode_generate` — season, episodes and name of a rendered path
-/

namespace MediaShelf.Pattern

open Regex (Node Trace)

/-! ### Episodes -/

section Padded

variable {front number back : List Char} (hfront : ∀ c ∈ front, Text.isBlank c)
  (hnumber : IsDigits number) (hback : ∀ c ∈ back, Text.isBlank c)
include hfront hnumber hback

/-- Blanks around a number are trimmed. -/
theorem trim_padded : Text.trim (front ++ number ++ back) = number := by
  have hsolid : ∀ c ∈ number, Text.isBlank c = false := fun c hc =>
    isBlank_of_isDecimalDigit (hnumber.2 c hc)
  exact Text.trim_append hfront hback hnumber.1 (fun c hc => hsolid c (List.mem_of_mem_head? hc))
    fun c hc => hsolid c (List.mem_of_mem_getLast? hc)

/-- Digits and blanks hold no ampersand. -/
theorem splitBy_padded :
    Text.splitBy (· == '&') (front ++ number ++ back) = [front ++ number ++ back] := by
  refine Text.splitBy_of_free fun c hc => ?_
  rw [beq_eq_false_iff_ne]
  rintro rfl
  simp only [List.mem_append] at hc
  rcases hc with (hc | hc) | hc
  · exact absurd (hfront _ hc) (by decide)
  · exact absurd (hnumber.2 _ hc) (by decide)
  · exact absurd (hback _ hc) (by decide)

/-- A number with blanks around it is one episode. -/
theorem readEpisodes?_padded :
    readEpisodes? (front ++ number ++ back) = (Text.readWord? number).map ([·]) := by
  rw [readEpisodes?, splitBy_padded hfront hnumber hback, List.mapM_cons, List.mapM_nil,
    trim_padded hfront hnumber hback]
  cases Text.readWord? number <;> rfl

/-- Behind an ampersand more of them are read. -/
theorem readEpisodes?_padded_cons (rest : List Char) :
    readEpisodes? (front ++ number ++ back ++ '&' :: rest) =
      (Text.readWord? number).bind fun n => (readEpisodes? rest).map (n :: ·) := by
  rw [readEpisodes?, Text.splitBy_append_cons (by decide), splitBy_padded hfront hnumber hback,
    List.singleton_append, List.mapM_cons, trim_padded hfront hnumber hback, ← readEpisodes?]
  cases Text.readWord? number with
  | none => rfl
  | some n => cases readEpisodes? rest <;> rfl

end Padded

/-- Written episodes are read, also with blanks in front of them. -/
theorem readEpisodes?_append {front : List Char} (hfront : ∀ c ∈ front, Text.isBlank c)
    {episodes : List UInt32} (h : episodes ≠ []) :
    readEpisodes? (front ++ writeEpisodes episodes) = some episodes := by
  obtain ⟨first, rest, rfl⟩ := List.exists_cons_of_ne_nil h
  clear h
  induction rest generalizing first front with
  | nil =>
    have hlast := readEpisodes?_padded hfront (isDigits_twoDigits first.toNat)
      (List.forall_mem_nil _)
    rw [List.append_nil, Text.readWord?_twoDigits] at hlast
    exact hlast
  | cons next rest ih =>
    -- blanks in front of the rest belong to its first number
    have hsplit : front ++ writeEpisodes (first :: next :: rest) =
        front ++ Text.twoDigits first.toNat ++ [' '] ++ '&' ::
          ([' '] ++ writeEpisodes (next :: rest)) := by
      rw [writeEpisodes_cons_cons]
      simp
    rw [hsplit, readEpisodes?_padded_cons hfront (isDigits_twoDigits _) isBlank_of_mem_space,
      Text.readWord?_twoDigits, ih isBlank_of_mem_space next]
    rfl

theorem readEpisodes?_writeEpisodes {episodes : List UInt32} (h : episodes ≠ []) :
    readEpisodes? (writeEpisodes episodes) = some episodes := by
  simpa using readEpisodes?_append (List.forall_mem_nil _) h

/-! ### The pattern -/

/-- The segments of the usual pattern. -/
def episodeSegments : List Segment :=
  [.token .showName, .literal ['/', 'S', 'e', 'a', 's', 'o', 'n', ' '], .token .season,
    .literal ['/'], .token .season, .literal [' '], .token .episode, .literal [' ', '-', ' '],
    .token .title, .literal ['.'], .token .extension]

theorem compile_defaultPattern : Pattern.compile (MediaDirectory.defaultPattern .tvShow) =
    .ok ⟨MediaDirectory.defaultPattern .tvShow, episodeSegments⟩ := by
  have hread : compileSegments (MediaDirectory.defaultPattern .tvShow).toList =
      .ok episodeSegments := by
    simp only [MediaDirectory.defaultPattern]
    rfl
  rw [compile, hread]
  rfl

theorem not_mem_of_isDigits {text : List Char} (h : IsDigits text) {c : Char}
    (hc : Text.isDecimalDigit c = false) : c ∉ text := by
  intro hmem
  rw [h.2 c hmem] at hc
  cases hc

theorem not_mem_of_isMoreNumbers {more : List Char} (h : IsMoreNumbers more) : '-' ∉ more := by
  induction h with
  | nil => exact List.not_mem_nil
  | cons hleft hright hnumber _ ih =>
    simp only [List.mem_append, List.mem_cons, not_or]
    exact ⟨⟨⟨fun h => absurd (hleft _ h) (by decide), by decide,
      fun h => absurd (hright _ h) (by decide)⟩, not_mem_of_isDigits hnumber (by decide)⟩, ih⟩

/-- No hyphen stands in the text of episodes. -/
theorem not_mem_of_accepts_episode {text : List Char} (h : Token.episode.Accepts text) :
    '-' ∉ text := by
  obtain ⟨number, more, hnumber, hmore, rfl⟩ := h
  rw [List.mem_append, not_or]
  exact ⟨not_mem_of_isDigits hnumber (by decide), not_mem_of_isMoreNumbers hmore⟩

/-- The traces of the pattern: its groups are the name, the season twice, and the episodes, and any
other split of the same text into such groups is the same. -/
theorem group?_of_reads {before : Option Char} {after : List Char} {trace : Regex.Trace Token}
    (h : (node episodeSegments).Reads before after trace) {name season episodes rest : List Char}
    (hname : Token.showName.Accepts name) (hseason : IsDigits season)
    (hepisodes : Token.episode.Accepts episodes)
    (htext : Trace.text trace = name ++ ['/', 'S', 'e', 'a', 's', 'o', 'n', ' '] ++ season ++
      ['/'] ++ season ++ [' '] ++ episodes ++ [' ', '-', ' '] ++ rest) :
    Trace.group? .showName trace = some name ∧ Trace.group? .season trace = some season ∧
      Trace.group? .episode trace = some episodes := by
  obtain ⟨name', _, _, hname', h₁, rfl⟩ := reads_token_cons h
  obtain ⟨mark, _, _, hmark, h₂, rfl⟩ := reads_literal_cons h₁
  obtain ⟨season', _, _, hseason', h₃, rfl⟩ := reads_token_cons h₂
  obtain ⟨slash, _, _, hslash, h₄, rfl⟩ := reads_literal_cons h₃
  obtain ⟨again, _, _, hagain, h₅, rfl⟩ := reads_token_cons h₄
  obtain ⟨space, _, _, hspace, h₆, rfl⟩ := reads_literal_cons h₅
  obtain ⟨episodes', _, _, hepisodes', h₇, rfl⟩ := reads_token_cons h₆
  obtain ⟨dash, _, back, hdash, -, rfl⟩ := reads_literal_cons h₇
  obtain rfl := Text.eq_of_sameLetters (by decide) hslash
  obtain rfl := Text.eq_of_sameLetters (by decide) hspace
  obtain rfl := Text.eq_of_sameLetters (by decide) hdash
  obtain ⟨first, word, rfl⟩ : ∃ first word, mark = first :: word := by
    cases hmark
    exact ⟨_, _, rfl⟩
  obtain ⟨hfirst, hword⟩ := List.forall₂_cons.mp hmark
  -- letters of the word may stand in another case, the slash in front of it may not
  obtain rfl := (Text.sameLetter_iff_eq (by decide) (by decide)).mp hfirst
  simp only [Trace.text_append, text_groupTrace, Trace.text_chars, List.append_assoc,
    List.cons_append, List.nil_append] at htext
  have hslash {text : List Char} (h : IsDigits text) : '/' ∉ text :=
    not_mem_of_isDigits h (by decide)
  have hspace {text : List Char} (h : IsDigits text) : ' ' ∉ text :=
    not_mem_of_isDigits h (by decide)
  have hdash {text : List Char} (h : Token.episode.Accepts text) : '-' ∉ text ++ [' '] := by
    rw [List.mem_append, not_or]
    exact ⟨not_mem_of_accepts_episode h, by decide⟩
  -- the name ends at the first slash
  obtain ⟨hname₁, htext₁⟩ :=
    Text.split_unique (fun hc => hname' _ hc rfl) (fun hc => hname _ hc rfl) htext
  have hlength : word.length = ['S', 'e', 'a', 's', 'o', 'n', ' '].length := hword.length_eq.symm
  obtain ⟨-, htext₂⟩ := List.append_inj
    (show word ++ _ = ['S', 'e', 'a', 's', 'o', 'n', ' '] ++ _ from htext₁) hlength
  -- the season ends at the next one, and its copy at the first blank
  obtain ⟨hseason₁, htext₃⟩ := Text.split_unique (hslash hseason') (hslash hseason) htext₂
  obtain ⟨-, htext₄⟩ := Text.split_unique (hspace hagain) (hspace hseason) htext₃
  -- the episodes end before the first hyphen
  obtain ⟨hepisodes₁, -⟩ := Text.split_unique (hdash hepisodes') (hdash hepisodes)
    (show episodes' ++ [' '] ++ '-' :: _ = episodes ++ [' '] ++ '-' :: _ by simpa using htext₄)
  rw [List.append_cancel_right hepisodes₁, hname₁, hseason₁]
  simp only [group?_groupTrace, Trace.group?_chars, reduceCtorEq, if_false, if_true, and_self]

/-! ### Rendered paths -/

section Rendered

variable {context : Context} {season : UInt32} {extension : String}

/-- The path that the pattern renders, in front of the title. -/
theorem render_episodeSegments (hseason : context.season = some season)
    (hepisodes : context.episodes ≠ []) : ∃ rest, render context episodeSegments =
      (context.value? .showName).getD [] ++ ['/', 'S', 'e', 'a', 's', 'o', 'n', ' '] ++
        Text.twoDigits season.toNat ++ ['/'] ++ Text.twoDigits season.toNat ++ [' '] ++
        writeEpisodes context.episodes ++ [' ', '-', ' '] ++ rest := by
  refine ⟨(context.value? .title).getD [] ++ ['.'] ++ (context.value? .extension).getD [], ?_⟩
  have hseason : context.value? .season = some (Text.twoDigits season.toNat) := by
    simp [Context.value?, hseason]
  have hepisode : context.value? .episode = some (writeEpisodes context.episodes) := by
    simp [Context.value?, hepisodes]
  simp [episodeSegments, render, Segment.render, hseason, hepisode]

/-- A rendered path is matched, and its groups are what was rendered. -/
theorem matchPath?_render (hseason : context.season = some season)
    (hepisodes : context.episodes ≠ [])
    (hextension : ∃ text, context.value? .extension = some text ∧ text ≠ [] ∧
      ∀ c ∈ text, c ≠ '.' ∧ c ≠ '/') :
    ∃ trace, matchPath? episodeSegments (render context episodeSegments) = some trace ∧
      Trace.group? .showName trace = some ((context.value? .showName).getD []) ∧
      Trace.group? .season trace = some (Text.twoDigits season.toNat) ∧
      Trace.group? .episode trace = some (writeEpisodes context.episodes) := by
  obtain ⟨ext, hext, hsound⟩ := hextension
  have hfits : context.Fits fun kind => uses kind episodeSegments := by
    intro kind hkind text htext
    refine Context.accepts_value? htext (fun hyear => ?_) fun hextension => ?_
    · rw [hyear] at hkind
      cases hkind
    · rw [hextension, hext, Option.some.injEq] at htext
      exact htext ▸ hsound
  have hresolved : ∀ kind, .token kind ∈ episodeSegments →
      (context.value? kind).isSome ∨ kind.Accepts [] := by
    intro kind hkind
    simp only [episodeSegments, List.mem_cons, Segment.token.injEq, reduceCtorEq, List.not_mem_nil,
      false_or, or_false] at hkind
    rcases hkind with rfl | rfl | rfl | rfl | rfl | rfl
    · exact .inr (by simp [Token.Accepts])
    · exact .inl (by simp [Context.value?, hseason])
    · exact .inl (by simp [Context.value?, hseason])
    · exact .inl (by simp [Context.value?, hepisodes])
    · exact .inr (by simp [Token.Accepts])
    · exact .inl (by simp [hext])
  obtain ⟨rendered, hreads, htext⟩ := exists_reads_render episodeSegments hfits hresolved
  obtain ⟨trace, htrace⟩ := Option.isSome_iff_exists.mp
    (Node.isSome_matchWhole? (hreads none []))
  rw [htext] at htrace
  obtain ⟨hmatched, hwhole⟩ := Node.matchWhole?_reads htrace
  obtain ⟨rest, hrest⟩ := render_episodeSegments hseason hepisodes
  have hname : Token.showName.Accepts ((context.value? .showName).getD []) := by
    cases hvalue : context.value? .showName with
    | none => simp [Token.Accepts]
    | some name => exact hfits .showName (by decide) name hvalue
  exact ⟨trace, htrace, group?_of_reads hmatched hname (isDigits_twoDigits _)
    (accepts_writeEpisodes hepisodes) (hwhole.trans hrest)⟩

/-- The name of the show as it is read back. -/
theorem capture?_name {trace : Regex.Trace Token}
    (h : Trace.group? .showName trace = some ((context.value? .showName).getD [])) :
    (capture? trace .showName).map String.ofList =
      (context.showName.map Text.normalize).filter (· ≠ "") := by
  rw [capture?_eq h]
  cases hname : context.showName with
  | none => simp [Context.value?, hname]
  | some name =>
    have hempty : String.ofList (Text.normalizeChars name.toList) = "" ↔
        Text.normalizeChars name.toList = [] := by
      rw [← String.toList_inj, String.toList_ofList, String.toList_empty]
    simp only [Context.value?, hname, Option.map_some, Option.getD_some, Text.normalize,
      Option.filter_some, decide_eq_true_eq, ne_eq, hempty, ite_not]
    split <;> rfl

/-- A path that the usual pattern renders for some episodes is read as their season, their numbers
in order, and the normalized name of the show unless that is empty. -/
theorem parseEpisode_generate (hseason : context.season = some season)
    (hepisodes : context.episodes ≠ []) (hextension : context.extension = some extension)
    (hne : Text.trimStartBy (· == '.') extension.toList ≠ [])
    (hfree : ∀ c ∈ Text.trimStartBy (· == '.') extension.toList, c ≠ '.' ∧ c ≠ '/' ∧ c ≠ '\\') :
    ∃ pattern, Pattern.compile (MediaDirectory.defaultPattern .tvShow) = .ok pattern ∧
      pattern.parseEpisode (pattern.generate context) = some
        { season
          episodes := context.episodes
          matchedBy := .pattern
          term := (context.showName.map Text.normalize).filter (· ≠ "") } := by
  refine ⟨_, compile_defaultPattern, ?_⟩
  have hvalue : context.value? .extension =
      some (Text.trimStartBy (· == '.') extension.toList) := by
    simp [Context.value?, hextension]
  have hslashes : forwardSlashes (render context episodeSegments) =
      render context episodeSegments := by
    refine forwardSlashes_of_no_backslash (no_backslash_render (by decide) fun text htext hc => ?_)
    rw [hvalue, Option.some.injEq] at htext
    exact (hfree _ (htext ▸ hc)).2.2 rfl
  obtain ⟨trace, htrace, hname, hseasonGroup, hepisodeGroup⟩ := matchPath?_render hseason hepisodes
    ⟨_, hvalue, hne, fun c hc => ⟨(hfree c hc).1, (hfree c hc).2.1⟩⟩
  have hseasonText : capture? trace .season = some (Text.twoDigits season.toNat) := by
    rw [capture?_eq hseasonGroup, if_neg (Text.twoDigits_ne_nil _)]
  have hepisodeText : capture? trace .episode = some (writeEpisodes context.episodes) := by
    rw [capture?_eq hepisodeGroup, if_neg (writeEpisodes_ne_nil hepisodes)]
  have hmatch : matchEpisode? ⟨MediaDirectory.defaultPattern .tvShow, episodeSegments⟩
      (render context episodeSegments) = some ⟨season, context.episodes, .pattern,
        (context.showName.map Text.normalize).filter (· ≠ "")⟩ := by
    simp only [matchEpisode?, htrace, hseasonText, hepisodeText, Text.readWord?_twoDigits,
      readEpisodes?_writeEpisodes hepisodes, capture?_name hname, Option.bind_eq_bind,
      Option.bind_some, Option.pure_def]
  rw [parseEpisode, generate, String.toList_ofList, hslashes, hmatch, Option.some_or]

end Rendered

/-- A name with a slash and with numbers, and a title that goes on like episodes. -/
theorem parseEpisode_generate_misleading :
    let context : Context :=
      { showName := some "S1E2/3", season := some 7, episodes := [4, 12],
        title := some "& 05 - 1.2", extension := some ".mkv" }
    ∃ pattern, Pattern.compile (MediaDirectory.defaultPattern .tvShow) = .ok pattern ∧
      pattern.parseEpisode (pattern.generate context) =
        some
          { season := 7, episodes := [4, 12], matchedBy := .pattern, term := some "S1E2-3" } := by
  intro context
  have hterm : (context.showName.map Text.normalize).filter (· ≠ "") = some "S1E2-3" := by
    decide +kernel
  have hseason : context.season = some 7 := rfl
  have hbare : Text.trimStartBy (· == '.') ".mkv".toList = ['m', 'k', 'v'] := by decide
  rw [← hterm]
  refine parseEpisode_generate hseason (by decide) rfl (by decide) ?_
  rw [hbare]
  simp

end MediaShelf.Pattern
