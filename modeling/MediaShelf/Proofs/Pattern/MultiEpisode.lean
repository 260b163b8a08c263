import MediaShelf.Proofs.Path.FileName
import MediaShelf.Proofs.Pattern.Marker

/-!
# Several episodes in one name

A season and an episode with letters may have markers of further episodes behind them, in any number
and of any forms. The cascade finds the first season and episode of the name and reads the markers
one after the other, up to where no marker begins.

## Main definitions

* `MarksAll` — the texts that mark several episodes of a season
* `IsUnmarked` — no season and episode with letters stand in the text

## Main results

* `trailingEpisodes_of_marksAll` — all markers are read, in order, and nothing behind them
* `hit?_seasonEpisode` — the first season and episode of a name are found
* `recognise?_of_marksAll` — a name with markers is recognised with all its episodes
-/

namespace MediaShelf.Pattern

open Regex (Node Trace Found)
open Text (sameLetter AsciiDigits Numeral)

/-- The text marks the episodes of the season one after the other. -/
inductive MarksAll (season : UInt32) : List Char → List UInt32 → Prop
  | nil : MarksAll season [] []
  | cons {text rest : List Char} {episode : UInt32} {episodes : List UInt32} :
      Marks season text episode → MarksAll season rest episodes →
      MarksAll season (text ++ rest) (episode :: episodes)

/-- No season and episode with letters stand in the text. -/
def IsUnmarked (text : List Char) : Prop :=
  ∀ season episode piece, AsciiDigits season → AsciiDigits episode →
    IsPair season episode piece → ¬ piece <:+: text

variable {season episode : UInt32} {episodes : List UInt32} {text tail front rest : List Char}

/-! ### Reading markers -/

theorem Marks.ne_nil (h : Marks season text episode) : text ≠ [] := by
  cases h with
  | letter => exact List.cons_ne_nil _ _
  | cross => exact List.cons_ne_nil _ _
  | number => exact List.cons_ne_nil _ _
  | pair _ hpair =>
    cases hpair
    exact List.append_ne_nil_of_right_ne_nil _ (List.cons_ne_nil _ _)

/-- There are no more markers than characters. -/
theorem MarksAll.length_le (h : MarksAll season text episodes) : episodes.length ≤ text.length := by
  induction h with
  | nil => exact Nat.le_refl _
  | cons hfirst _ ih =>
    have hpos := List.length_pos_iff.mpr hfirst.ne_nil
    rw [List.length_cons, List.length_append]
    omega

theorem IsOver.endsNumber (h : IsOver tail) : EndsNumber tail :=
  fun c hc => ⟨(h c hc).1, (h c hc).2.2.2.2⟩

/-- A number in front of markers ends there. -/
theorem MarksAll.endsNumber (h : MarksAll season text episodes) (htail : IsOver tail) :
    EndsNumber (text ++ tail) := by
  cases h with
  | nil => exact htail.endsNumber
  | cons hfirst _ =>
    rw [List.append_assoc]
    exact hfirst.endsNumber _

theorem trailingEpisodesWithin_of_isOver (h : IsOver tail) (rounds : Nat) :
    trailingEpisodesWithin season rounds tail = [] := by
  cases rounds with
  | zero => rfl
  | succ rounds => rw [trailingEpisodesWithin, nextEpisode?_of_isOver h]

/-- Enough rounds read all markers, in order. -/
theorem trailingEpisodesWithin_of_marksAll (h : MarksAll season text episodes)
    (htail : IsOver tail) {rounds : Nat} (hrounds : episodes.length ≤ rounds) :
    trailingEpisodesWithin season rounds (text ++ tail) = episodes := by
  induction h generalizing rounds with
  | nil => exact trailingEpisodesWithin_of_isOver htail rounds
  | cons hfirst hrest ih =>
    obtain ⟨rounds, rfl⟩ : ∃ fewer, rounds = fewer + 1 :=
      Nat.exists_eq_add_one.mpr (Nat.lt_of_lt_of_le (Nat.succ_pos _) hrounds)
    rw [List.append_assoc, trailingEpisodesWithin,
      nextEpisode?_of_marks hfirst (hrest.endsNumber htail)]
    exact congrArg _ (ih (Nat.le_of_succ_le_succ hrounds))

/-- All markers are read, in order, and nothing behind them. -/
theorem trailingEpisodes_of_marksAll (h : MarksAll season text episodes) (htail : IsOver tail) :
    trailingEpisodes season (text ++ tail) = episodes := by
  refine trailingEpisodesWithin_of_marksAll h htail ?_
  have hlength := h.length_le
  rw [List.length_append]
  omega

/-! ### The first season and episode -/

/-- What ends before a character is a prefix of what stands in front of the character. -/
theorem prefix_of_append_cons {c : Char} {piece back : List Char} (hc : c ∉ piece)
    (h : front ++ c :: rest = piece ++ back) : piece <+: front := by
  rcases List.append_eq_append_iff.mp h with ⟨between, rfl, hback⟩ | ⟨between, rfl, -⟩
  · cases between with
    | nil => exact ⟨[], by simp⟩
    | cons d between =>
      rw [(List.cons.inj hback).1] at hc
      simp at hc
  · exact List.prefix_append _ _

/-- A match that starts earlier than a letter S would end before it, where there is none. -/
theorem IsUnmarked.preferred?_eq_none {before gap : List Char} {c s : Char}
    (h : IsUnmarked (before ++ c :: gap)) (hs : sameLetter 's' s) :
    (seasonEpisodeNode .empty).preferred? before (c :: gap ++ s :: rest) = none := by
  refine Node.preferred?_eq_none fun _ behind htext hreads => ?_
  obtain ⟨s', season, e, digits, hs', hseason, he, hdigits, rfl⟩ := reads_pair.mp hreads
  have heq : c :: (gap ++ s :: rest) = s' :: (season ++ e :: digits ++ behind) := by
    simpa using htext
  obtain ⟨rfl, hback⟩ := List.cons.inj heq
  -- the letter S is none of the characters behind the first one of a match
  have hfree : s ∉ season ++ e :: digits := by
    have hdigit := Text.isDigit_of_sameLetter (by decide) hs
    intro hmem
    rcases List.mem_append.mp hmem with hmem | hmem
    · rw [hseason.2 s hmem] at hdigit
      cases hdigit
    · rcases List.mem_cons.mp hmem with rfl | hmem
      · rw [not_sameLetter hs (by decide)] at he
        cases he
      · rw [hdigits.2 s hmem] at hdigit
        cases hdigit
  obtain ⟨back, rfl⟩ := prefix_of_append_cons hfree hback
  exact h season digits _ hseason hdigits (.mk hs' he) ⟨before, back, by simp⟩

/-- Whether there is none is told by the search for one. -/
theorem isUnmarked_iff : IsUnmarked text ↔ (seasonEpisodeNode .empty).find? text = none := by
  constructor
  · intro h
    cases hfind : (seasonEpisodeNode .empty).find? text with
    | none => rfl
    | some found =>
      obtain ⟨htext, hreads⟩ := Node.find?_eq_some hfind
      obtain ⟨s, season, e, digits, hs, hseason, he, hdigits, htrace⟩ := reads_pair.mp hreads
      refine absurd ⟨found.before, found.rest, ?_⟩
        (h season digits _ hseason hdigits (.mk hs he))
      simp [htext, htrace]
  · rintro hnone season digits _ hseason hdigits @⟨s, e, hs, he⟩ ⟨before, after, rfl⟩
    have hreads : (seasonEpisodeNode .empty).Reads before.getLast? after
        (numbersTrace [s] season [e] digits []) :=
      reads_pair.mpr ⟨s, season, e, digits, hs, hseason, he, hdigits, rfl⟩
    obtain ⟨found, hfound, -⟩ := Node.find?_of_preferred? (Node.isSome_preferred? hreads)
    have hsome : (seasonEpisodeNode .empty).find?
        (before ++ s :: (season ++ e :: digits) ++ after) = some found := by
      simpa using hfound
    cases hsome.symm.trans hnone

instance : Decidable (IsUnmarked text) := decidable_of_iff _ isUnmarked_iff.symm

/-- The first season and episode of a name are found, with the text in front of them. -/
theorem hit?_seasonEpisode {seasonDigits digits pair : List Char} (hfront : IsUnmarked front)
    (hpair : IsPair seasonDigits digits pair) (hseason : Numeral seasonDigits season)
    (hepisode : Numeral digits episode) (hrest : ∀ c ∈ rest.head?, c.isDigit = false) :
    Heuristic.seasonEpisode.hit? (front ++ (pair ++ rest)) =
      some ⟨season, episode, front, rest⟩ := by
  obtain @⟨s, e, hs, he⟩ := hpair
  have hhere : (seasonEpisodeNode .empty).preferred? front
      (s :: (seasonDigits ++ e :: digits) ++ rest) =
        some (numbersTrace [s] seasonDigits [e] digits []) := by
    simpa using preferred?_pair front hs hseason.digits he hepisode.digits hrest
  obtain ⟨⟨before, trace, behind⟩, hfound, gap, rfl⟩ :=
    Node.find?_of_preferred? (Option.isSome_of_eq_some hhere)
  obtain ⟨later, htext, hmatch, hbehind⟩ := Node.find?_eq_preferred? hfound
  rw [List.append_assoc] at htext
  obtain rfl := List.append_cancel_left htext
  cases gap with
  | cons c gap =>
    have hnone := @IsUnmarked.preferred?_eq_none (seasonDigits ++ e :: digits ++ rest)
      before gap c s hfront hs
    cases hmatch.symm.trans hnone
  | nil =>
    rw [List.append_nil] at hhere
    obtain rfl := Option.some.inj (hmatch.symm.trans hhere)
    have hrest : behind = rest := by simpa using hbehind
    rw [Heuristic.hit?, hfound, Option.bind_some, hrest, ofFound?_numbersTrace hseason hepisode,
      List.append_nil, List.nil_append]

/-! ### Names with markers -/

/-- What is recognised in a stem with markers. -/
theorem recognise?_seasonEpisode {seasonDigits digits pair markers : List Char}
    (hfront : IsUnmarked front) (hpair : IsPair seasonDigits digits pair)
    (hseason : Numeral seasonDigits season) (hepisode : Numeral digits episode)
    (hmarkers : MarksAll season markers episodes) (htail : IsOver tail) :
    Heuristic.seasonEpisode.recognise? (front ++ (pair ++ (markers ++ tail))) =
      some ⟨.seasonEpisode, season, episode :: episodes,
        if (Text.cleanSeparators front).isEmpty then none
          else some (Text.cleanSeparators front)⟩ := by
  have hhit := hit?_seasonEpisode hfront hpair hseason hepisode
    fun c hc => (hmarkers.endsNumber htail c hc).1
  rw [Heuristic.recognise?, hhit, Option.map_some]
  simp only [Heuristic.scansTrailing, if_true, trailingEpisodes_of_marksAll hmarkers htail]

end MediaShelf.Pattern
