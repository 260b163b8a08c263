import MediaShelf.Path.FileName
import MediaShelf.Pattern.Segment
import MediaShelf.Regex.Find
import MediaShelf.Text.Numeral
import MediaShelf.Text.Separators

/-!
# Season and episode numbers in free-form names

Few file names follow a pattern. Each heuristic knows one usual way to write season and episode;
they are tried in a fixed order and the first that fits decides. After some of them more episode
numbers may follow.

## Main definitions

* `Heuristic` — the ways to write season and episode; `Heuristic.cascade` is their order
* `Hit` — what a heuristic found, and where
* `Heuristic.hit?` — the hit of a heuristic in a name
* `trailingEpisodes` — the episode numbers that follow a hit
* `recognise?` — the outcome of the whole cascade
-/

namespace MediaShelf.Pattern

open Regex (Node)

/-- A usual way to write season and episode. -/
inductive Heuristic where
  /-- As in `S04E06`. -/
  | seasonEpisode
  /-- As in `S04.E06` or `S04 E06`. -/
  | seasonDotEpisode
  /-- As in `4x06`. -/
  | crossSeparated
  /-- As in `0406`. -/
  | fourDigits
  /-- As in `406`. -/
  | threeDigits
  /-- As in `4 06`, at the start of the name. -/
  | leadingSingleDigit
  /-- As in `10 06`, at the start of the name. -/
  | leadingNumber
  /-- As in `season 4 episode 6`. -/
  | phrase
  deriving DecidableEq, Repr

namespace Heuristic

/-- All heuristics in the order in which they are tried. -/
def cascade : List Heuristic :=
  [seasonEpisode, seasonDotEpisode, crossSeparated, fourDigits, threeDigits, leadingSingleDigit,
    leadingNumber, phrase]

/-- The place of the heuristic in the cascade, counted from one. -/
def index (h : Heuristic) : Nat := cascade.idxOf h + 1

/-- Whether more episode numbers may follow what the heuristic finds. -/
def scansTrailing : Heuristic → Bool
  | seasonEpisode | seasonDotEpisode | crossSeparated => true
  | _ => false

end Heuristic

/-- An ASCII digit. -/
def digit : Node Token := .one Char.isDigit

/-- At least one and at most `n + 1` ASCII digits. -/
def digitsUpTo (n : Nat) : Node Token := .seq digit (.upTo false n digit)

/-- Any character but an ASCII digit, or an edge of the text. -/
def digitBoundary (edge : Regex.Assertion) : Node Token :=
  .alt (.one (! ·.isDigit)) (.look edge)

/-- A season number. -/
def seasonGroup (number : Node Token) : Node Token := .group .season number

/-- An episode number. -/
def episodeGroup (number : Node Token) : Node Token := .group .episode number

/-- The letter S and a season, the letter E and an episode, with `between` between them. -/
def seasonEpisodeNode (between : Node Token) : Node Token :=
  .seqs [.letter 's', seasonGroup (.plus Char.isDigit), between, .letter 'e',
    episodeGroup (.plus Char.isDigit)]

/-- Season and episode with an X between them. -/
def crossNode : Node Token :=
  .seqs [seasonGroup (digitsUpTo 1), .letter 'x', episodeGroup (digitsUpTo 2),
    digitBoundary Regex.atEnd]

/-- A season number at the start, a blank, and two digits for the episode. -/
def leadingNode (season : Node Token) : Node Token :=
  .seqs [.look Regex.atStart, seasonGroup season, .one Text.isBlank,
    episodeGroup (.seq digit digit), digitBoundary Regex.atEnd]

/-- Blanks and full stops in any number. -/
def gap : Node Token := .many false fun c => Text.isBlank c || c == '.'

/-- The words `season` and `episode`, each with its number. -/
def phraseNode : Node Token :=
  .seqs [.text "season".toList, gap, seasonGroup (digitsUpTo 1), gap, .text "episode".toList, gap,
    episodeGroup (digitsUpTo 2)]

/-- What was found in a name. -/
structure Hit where
  season : UInt32
  episode : UInt32
  /-- The text in front of the hit. -/
  before : List Char
  /-- The text behind the episode number. -/
  rest : List Char
  deriving DecidableEq, Repr

/-- The hit that a match stands for; there is none if a number exceeds 32 bits. -/
def Hit.ofFound? (found : Regex.Found Token) : Option Hit := do
  let season ← Text.readWord? (← found.group? .season)
  let episode ← Text.readWord? (← found.group? .episode)
  pure ⟨season, episode, found.before, found.behind .episode⟩

/-- A longest run of ASCII digits in a text. -/
structure DigitRun where
  before : List Char
  digits : List Char
  rest : List Char
  deriving DecidableEq, Repr

/-- The longest runs of digits in `text`, which stands after the characters `before` (nearest
first). -/
def digitRunsAfter (before : List Char) : List Char → List DigitRun
  | [] => []
  | c :: rest =>
    let later := digitRunsAfter (c :: before) rest
    if c.isDigit && !before.head?.any Char.isDigit then
      ⟨before.reverse, (c :: rest).takeWhile Char.isDigit, (c :: rest).dropWhile Char.isDigit⟩
        :: later
    else later

/-- The characters that set a run of digits apart. -/
def isDelimiter (c : Char) : Bool := c == '.' || c == ' ' || c == '-' || c == '_'

namespace DigitRun

/-- Whether the run is set apart on both sides. -/
def standsAlone (run : DigitRun) : Bool :=
  run.before.getLast?.all isDelimiter && run.rest.head?.all isDelimiter

/-- Whether the digits could be a year. -/
def looksLikeYear (run : DigitRun) : Bool :=
  ['1', '9'].isPrefixOf run.digits || ['2', '0'].isPrefixOf run.digits

/-- Whether the run may be read as season and episode: its episode is not `00`, and it is no year
beside another run of three or four digits. -/
def isPlausible (runs : List DigitRun) (run : DigitRun) : Bool :=
  let hasAlternative := runs.any fun other =>
    other.before.length != run.before.length && 3 ≤ other.digits.length && other.digits.length ≤ 4
  !(['0', '0'].isSuffixOf run.digits) &&
    !(run.digits.length == 4 && run.looksLikeYear && hasAlternative)

/-- The last two digits are the episode, those in front the season. -/
def hit? (run : DigitRun) : Option Hit := do
  let places := run.digits.length - 2
  let season ← Text.readWord? (run.digits.take places)
  let episode ← Text.readWord? (run.digits.drop places)
  pure ⟨season, episode, run.before, run.rest⟩

end DigitRun

/-- The first plausible run of exactly `size` digits that stands alone. -/
def digitRunHit? (name : List Char) (size : Nat) : Option Hit :=
  let runs := (digitRunsAfter [] name).filter DigitRun.standsAlone
  ((runs.filter (·.digits.length == size)).find? (DigitRun.isPlausible runs)).bind (·.hit?)

/-- What the heuristic finds in a name. -/
def Heuristic.hit? (name : List Char) : Heuristic → Option Hit
  | seasonEpisode => ((seasonEpisodeNode .empty).find? name).bind Hit.ofFound?
  | seasonDotEpisode =>
    ((seasonEpisodeNode (.one fun c => c == '.' || c == ' ')).find? name).bind Hit.ofFound?
  | crossSeparated =>
    ((Node.seq (.alt (.look Regex.atStart) (.one (! ·.isDigit))) crossNode).find? name).bind
      Hit.ofFound?
  | fourDigits => digitRunHit? name 4
  | threeDigits => digitRunHit? name 3
  | leadingSingleDigit => ((leadingNode digit).find? name).bind Hit.ofFound?
  | leadingNumber => ((leadingNode (digitsUpTo 1)).find? name).bind Hit.ofFound?
  | phrase => (phraseNode.find? name).bind Hit.ofFound?

/-- Punctuation that may stand before a further season and episode. -/
def joiner : Node Token := .opt (.one (['-', '+', ',', '.'].contains ·))

/-- A number at the start of the text, with the text behind it. -/
def numberAtStart? (node : Node Token) (text : List Char) : Option (UInt32 × List Char) := do
  let found ← node.findAtStart? text
  let number ← Text.readWord? (← found.group? .episode)
  pure (number, found.behind .episode)

/-- A hit at the start of the text. -/
def hitAtStart? (node : Node Token) (text : List Char) : Option Hit :=
  (node.findAtStart? text).bind Hit.ofFound?

/-- The letter E and an episode number. -/
def trailingEpisodeNode : Node Token := .seq (.letter 'e') (episodeGroup (.plus Char.isDigit))

/-- Season and episode once more, either with letters or with an X. -/
def trailingPair? (text : List Char) : Option Hit :=
  (hitAtStart? (.seq joiner (seasonEpisodeNode .empty)) text).or
    (hitAtStart? (.seq joiner crossNode) text)

/-- Punctuation and two digits. -/
def trailingNumberNode : Node Token :=
  .seqs [.one (['+', ',', '.'].contains ·), episodeGroup (.seq digit digit),
    digitBoundary Regex.atEnd]

/-- The next episode number of the season at the start of the text, with the text behind it. A
pair of another season ends the search. -/
def nextEpisode? (season : UInt32) (text : List Char) : Option (UInt32 × List Char) :=
  match numberAtStart? trailingEpisodeNode text with
  | some next => some next
  | none =>
    -- a pair takes precedence over a bare number, even if it then ends the search
    match trailingPair? text with
    | some hit => if hit.season = season then some (hit.episode, hit.rest) else none
    | none => numberAtStart? trailingNumberNode text

/-- At most `rounds` episode numbers from the start of the text. -/
def trailingEpisodesWithin (season : UInt32) : Nat → List Char → List UInt32
  | 0, _ => []
  | rounds + 1, text =>
    match nextEpisode? season text with
    | none => []
    | some (episode, rest) => episode :: trailingEpisodesWithin season rounds rest

/-- All episode numbers that follow at the start of the text. Each takes at least one character,
so there are no more than characters. -/
def trailingEpisodes (season : UInt32) (text : List Char) : List UInt32 :=
  trailingEpisodesWithin season text.length text

/-- Season and episodes as a heuristic recognises them in a name. -/
structure Recognised where
  heuristic : Heuristic
  season : UInt32
  episodes : List UInt32
  /-- The cleaned text in front of the numbers, unless it is empty. -/
  term : Option (List Char)
  deriving DecidableEq, Repr

/-- What one heuristic recognises in the stem of a file name. -/
def Heuristic.recognise? (stem : List Char) (h : Heuristic) : Option Recognised :=
  (h.hit? stem).map fun hit =>
    let more := if h.scansTrailing then trailingEpisodes hit.season hit.rest else []
    let term := Text.cleanSeparators hit.before
    ⟨h, hit.season, hit.episode :: more, if term.isEmpty then none else some term⟩

/-- What the first fitting heuristic recognises in a file name. -/
def recognise? (fileName : List Char) : Option Recognised :=
  Heuristic.cascade.findSome? (·.recognise? (Path.stem fileName))

end MediaShelf.Pattern
