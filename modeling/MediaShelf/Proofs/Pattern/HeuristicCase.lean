import MediaShelf.Pattern.Heuristic
import MediaShelf.Proofs.Regex.Blind
import MediaShelf.Proofs.Text.LetterCase

/-!
# Heuristics do not see letter case

The letters that a heuristic looks for count in either case, and all else that it looks for are
digits, blanks and punctuation. So in a name whose letters are lowered each heuristic finds the same
numbers in the same places.

## Main definitions

* `Hit.lowered`, `DigitRun.lowered`, `Recognised.lowered` — what was found, with the text around it
  lowered

## Main results

* `Heuristic.hit?_toLower` — the hit of a heuristic
* `trailingEpisodes_toLower` — the episodes that follow
* `recognise?_toLower` — the outcome of the whole cascade
-/

namespace MediaShelf.Pattern

open Regex (Node Found)
open Text (apply_toLower isDigit_toLower isBlank_toLower isDecimalDigit_toLower sameLetter_toLower)

/-! ### Expressions -/

theorem blind_empty : (Node.empty : Node Token).Blind Char.toLower := trivial

/-- A set of characters that holds both forms of a letter or neither. -/
theorem blind_one {accepts : Char → Bool}
    (h : ∀ n < 26, accepts (Char.ofNat (65 + n)).toLower = accepts (Char.ofNat (65 + n))) :
    (Node.one accepts : Node Token).Blind Char.toLower :=
  apply_toLower h

theorem blind_letter (c : Char) : (Node.letter c : Node Token).Blind Char.toLower :=
  sameLetter_toLower c

theorem blind_text (chars : List Char) : (Node.text chars : Node Token).Blind Char.toLower := by
  refine .seqs fun node hnode => ?_
  obtain ⟨c, -, rfl⟩ := List.mem_map.mp hnode
  exact blind_letter c

theorem blind_digit : digit.Blind Char.toLower := isDigit_toLower

theorem blind_digitsUpTo (n : Nat) : (digitsUpTo n).Blind Char.toLower :=
  ⟨blind_digit, .upTo blind_digit false n⟩

theorem blind_digitBoundary : (digitBoundary Regex.atEnd).Blind Char.toLower :=
  ⟨blind_one (by decide), Node.blind_atEnd⟩

theorem blind_seasonEpisodeNode {between : Node Token} (h : between.Blind Char.toLower) :
    (seasonEpisodeNode between).Blind Char.toLower :=
  ⟨blind_letter 's', ⟨blind_digit, blind_digit⟩, h, blind_letter 'e', blind_digit, blind_digit⟩

theorem blind_crossNode : crossNode.Blind Char.toLower :=
  ⟨blind_digitsUpTo 1, blind_letter 'x', blind_digitsUpTo 2, blind_digitBoundary⟩

/-- The numbers around an X, not behind a digit. -/
theorem blind_openCrossNode :
    (Node.seq (.alt (.look Regex.atStart) (.one (! ·.isDigit))) crossNode).Blind Char.toLower :=
  ⟨⟨Node.blind_atStart, blind_one (by decide)⟩, blind_crossNode⟩

theorem blind_leadingNode {season : Node Token} (h : season.Blind Char.toLower) :
    (leadingNode season).Blind Char.toLower :=
  ⟨Node.blind_atStart, h, isBlank_toLower, ⟨blind_digit, blind_digit⟩, blind_digitBoundary⟩

theorem blind_gap : gap.Blind Char.toLower :=
  apply_toLower (p := fun c => Text.isBlank c || c == '.') (by decide)

theorem blind_phraseNode : phraseNode.Blind Char.toLower :=
  ⟨blind_text _, blind_gap, blind_digitsUpTo 1, blind_gap, blind_text _, blind_gap,
    blind_digitsUpTo 2⟩

theorem blind_trailingEpisodeNode : trailingEpisodeNode.Blind Char.toLower :=
  ⟨blind_letter 'e', blind_digit, blind_digit⟩

theorem blind_trailingNumberNode : trailingNumberNode.Blind Char.toLower :=
  ⟨blind_one (by decide), ⟨blind_digit, blind_digit⟩, blind_digitBoundary⟩

theorem blind_joiner : joiner.Blind Char.toLower :=
  .opt (blind_one (by decide)) false

/-! ### Hits -/

/-- The hit with the text around it lowered. -/
def Hit.lowered (hit : Hit) : Hit :=
  { hit with before := hit.before.map Char.toLower, rest := hit.rest.map Char.toLower }

theorem Hit.ofFound?_toLower (found : Found Token) :
    Hit.ofFound? (found.map Char.toLower) = (Hit.ofFound? found).map Hit.lowered := by
  simp only [Hit.ofFound?, Found.group?_map, Found.behind_map]
  cases found.group? .season with
  | none => rfl
  | some season =>
    simp only [Option.map_some, Option.bind_eq_bind, Option.bind_some, Text.readWord?_toLower]
    cases Text.readWord? season with
    | none => rfl
    | some number =>
      cases found.group? .episode with
      | none => rfl
      | some episode =>
        simp only [Option.map_some, Option.bind_some, Text.readWord?_toLower]
        cases Text.readWord? episode <;> rfl

theorem findHit_toLower {node : Node Token} (h : node.Blind Char.toLower) (name : List Char) :
    (node.find? (name.map Char.toLower)).bind Hit.ofFound? =
      ((node.find? name).bind Hit.ofFound?).map Hit.lowered := by
  rw [Node.find?_map h, Option.bind_map, Option.map_bind]
  exact congrArg _ (funext Hit.ofFound?_toLower)

/-! ### Runs of digits -/

namespace DigitRun

/-- The run of digits with the text around it lowered. -/
def lowered (run : DigitRun) : DigitRun :=
  { run with before := run.before.map Char.toLower, rest := run.rest.map Char.toLower }

theorem standsAlone_lowered (run : DigitRun) : run.lowered.standsAlone = run.standsAlone := by
  have hdelimiter (c : Char) : isDelimiter c.toLower = isDelimiter c := apply_toLower (by decide) c
  simp only [standsAlone, lowered, List.getLast?_map, List.head?_map, Option.all_map,
    hdelimiter]

/-- Whether a run is plausible depends on its digits and on where the other runs are. -/
theorem isPlausible_lowered (runs : List DigitRun) (run : DigitRun) :
    run.lowered.isPlausible (runs.map lowered) = run.isPlausible runs := by
  simp only [isPlausible, looksLikeYear, lowered, List.any_map, Function.comp_def, List.length_map]
  rfl

theorem hit?_lowered (run : DigitRun) : run.lowered.hit? = run.hit?.map Hit.lowered := by
  simp only [hit?, lowered]
  cases Text.readWord? (run.digits.take (run.digits.length - 2)) with
  | none => rfl
  | some season =>
    cases Text.readWord? (run.digits.drop (run.digits.length - 2)) <;> rfl

end DigitRun

theorem digitRunsAfter_toLower (before text : List Char) :
    digitRunsAfter (before.map Char.toLower) (text.map Char.toLower) =
      (digitRunsAfter before text).map DigitRun.lowered := by
  -- the character in front of the rest joins those before it
  induction text generalizing before with
  | nil => rfl
  | cons c rest ih =>
    have hlater := ih (c :: before)
    rw [List.map_cons] at hlater
    have hbefore : (before.map Char.toLower).head?.any Char.isDigit =
        before.head?.any Char.isDigit := by
      simp only [List.head?_map, Option.any_map, isDigit_toLower]
    have hdigits : ((c :: rest).map Char.toLower).takeWhile Char.isDigit =
        (c :: rest).takeWhile Char.isDigit := by
      rw [Text.takeWhile_map isDigit_toLower]
      exact Text.map_toLower_of_isDigit (List.all_eq_true.mp List.all_takeWhile)
    have hrest : ((c :: rest).map Char.toLower).dropWhile Char.isDigit =
        ((c :: rest).dropWhile Char.isDigit).map Char.toLower :=
      Text.dropWhile_map isDigit_toLower _
    rw [List.map_cons] at hdigits hrest
    simp only [List.map_cons, digitRunsAfter, isDigit_toLower, hbefore, hdigits, hrest, hlater]
    split
    · rw [List.map_cons, DigitRun.lowered, List.map_reverse]
    · rfl

theorem digitRunHit?_toLower (name : List Char) (size : Nat) :
    digitRunHit? (name.map Char.toLower) size = (digitRunHit? name size).map Hit.lowered := by
  have hruns := digitRunsAfter_toLower [] name
  rw [List.map_nil] at hruns
  simp only [digitRunHit?, hruns, List.filter_map, Function.comp_def, DigitRun.standsAlone_lowered,
    List.find?_map, DigitRun.isPlausible_lowered, Option.bind_map, Option.map_bind,
    DigitRun.hit?_lowered]
  rfl

theorem Heuristic.hit?_toLower (name : List Char) (h : Heuristic) :
    h.hit? (name.map Char.toLower) = (h.hit? name).map Hit.lowered := by
  cases h with
  | seasonEpisode => exact findHit_toLower (blind_seasonEpisodeNode blind_empty) name
  | seasonDotEpisode => exact findHit_toLower (blind_seasonEpisodeNode (blind_one (by decide))) name
  | crossSeparated => exact findHit_toLower blind_openCrossNode name
  | fourDigits => exact digitRunHit?_toLower name 4
  | threeDigits => exact digitRunHit?_toLower name 3
  | leadingSingleDigit => exact findHit_toLower (blind_leadingNode blind_digit) name
  | leadingNumber => exact findHit_toLower (blind_leadingNode (blind_digitsUpTo 1)) name
  | phrase => exact findHit_toLower blind_phraseNode name

/-! ### Episodes that follow -/

theorem numberAtStart?_toLower {node : Node Token} (h : node.Blind Char.toLower)
    (text : List Char) :
    numberAtStart? node (text.map Char.toLower) =
      (numberAtStart? node text).map fun (number, rest) => (number, rest.map Char.toLower) := by
  simp only [numberAtStart?, Node.findAtStart?_map h]
  cases node.findAtStart? text with
  | none => rfl
  | some found =>
    simp only [Option.map_some, Option.bind_eq_bind, Option.bind_some, Found.group?_map,
      Found.behind_map]
    cases found.group? .episode with
    | none => rfl
    | some digits =>
      simp only [Option.map_some, Option.bind_some, Text.readWord?_toLower]
      cases Text.readWord? digits <;> rfl

theorem hitAtStart?_toLower {node : Node Token} (h : node.Blind Char.toLower) (text : List Char) :
    hitAtStart? node (text.map Char.toLower) = (hitAtStart? node text).map Hit.lowered := by
  rw [hitAtStart?, hitAtStart?, Node.findAtStart?_map h, Option.bind_map, Option.map_bind]
  exact congrArg _ (funext Hit.ofFound?_toLower)

theorem trailingPair?_toLower (text : List Char) :
    trailingPair? (text.map Char.toLower) = (trailingPair? text).map Hit.lowered := by
  have hletters : (Node.seq joiner (seasonEpisodeNode .empty)).Blind Char.toLower :=
    ⟨blind_joiner, blind_seasonEpisodeNode blind_empty⟩
  have hcross : (Node.seq joiner crossNode).Blind Char.toLower := ⟨blind_joiner, blind_crossNode⟩
  rw [trailingPair?, trailingPair?, hitAtStart?_toLower hletters, hitAtStart?_toLower hcross,
    Option.map_or]

theorem nextEpisode?_toLower (season : UInt32) (text : List Char) :
    nextEpisode? season (text.map Char.toLower) =
      (nextEpisode? season text).map fun (number, rest) => (number, rest.map Char.toLower) := by
  simp only [nextEpisode?, numberAtStart?_toLower blind_trailingEpisodeNode,
    numberAtStart?_toLower blind_trailingNumberNode, trailingPair?_toLower]
  cases numberAtStart? trailingEpisodeNode text with
  | some next => rfl
  | none =>
    cases trailingPair? text with
    | none => rfl
    | some hit =>
      simp only [Option.map_none, Option.map_some, Hit.lowered]
      split <;> rfl

theorem trailingEpisodesWithin_toLower (season : UInt32) (rounds : Nat) (text : List Char) :
    trailingEpisodesWithin season rounds (text.map Char.toLower) =
      trailingEpisodesWithin season rounds text := by
  induction rounds generalizing text with
  | zero => rfl
  | succ rounds ih =>
    rw [trailingEpisodesWithin, trailingEpisodesWithin, nextEpisode?_toLower]
    cases nextEpisode? season text with
    | none => rfl
    | some next => exact congrArg (next.1 :: ·) (ih next.2)

theorem trailingEpisodes_toLower (season : UInt32) (text : List Char) :
    trailingEpisodes season (text.map Char.toLower) = trailingEpisodes season text := by
  rw [trailingEpisodes, List.length_map, trailingEpisodesWithin_toLower, trailingEpisodes]

/-! ### The cascade -/

/-- What was recognised, with the term lowered. -/
def Recognised.lowered (found : Recognised) : Recognised :=
  { found with term := found.term.map (·.map Char.toLower) }

theorem Heuristic.recognise?_toLower (stem : List Char) (h : Heuristic) :
    h.recognise? (stem.map Char.toLower) = (h.recognise? stem).map Recognised.lowered := by
  rw [Heuristic.recognise?, Heuristic.recognise?, h.hit?_toLower, Option.map_map, Option.map_map]
  congr 1
  funext hit
  have hterm := Text.cleanSeparators_toLower hit.before
  simp only [Function.comp_apply, Hit.lowered, Recognised.lowered, trailingEpisodes_toLower, hterm,
    List.isEmpty_map]
  cases (Text.cleanSeparators hit.before).isEmpty <;> rfl

/-- In a name whose letters are lowered the same is recognised, and the term lowered. -/
theorem recognise?_toLower (fileName : List Char) :
    recognise? (fileName.map Char.toLower) = (recognise? fileName).map Recognised.lowered := by
  simp only [recognise?, Path.stem_toLower, Heuristic.recognise?_toLower]
  exact List.map_findSome?.symm

end MediaShelf.Pattern
