import MediaShelf.Path.Basic
import MediaShelf.Pattern.Compile
import MediaShelf.Pattern.Decoration
import MediaShelf.Pattern.Heuristic
import MediaShelf.Pattern.Matcher
import MediaShelf.Pattern.Render

/-!
# Naming patterns

A compiled pattern works in both directions: it gives a file its place from metadata, and it reads
metadata back from a path.

## Main definitions

* `Pattern` and `Pattern.compile` — patterns that were read successfully
* `Pattern.generate`, `Pattern.destination` — the path for some metadata, relative or below a root
* `Pattern.parseEpisode` — season and episodes of a path, by the pattern or by a heuristic
* `Pattern.matchFilm`, `Pattern.parseFilm` — title, year and part of a path, by the pattern
-/

namespace MediaShelf

open Pattern (Segment Token SyntaxError)

/-- A compiled naming pattern. -/
structure Pattern where
  /-- The pattern as written. -/
  source : String
  segments : List Segment
  deriving Repr

namespace Pattern

/-- Compiles a written pattern; one that is nested too deeply is refused. -/
def compile (source : String) : Except SyntaxError Pattern := do
  let segments ← compileSegments source.toList
  if nestDepth segments > nestLimit then throw .tooDeep
  pure ⟨source, segments⟩

/-- Whether the token occurs anywhere in the pattern. -/
def contains (pattern : Pattern) (kind : Token) : Bool := uses kind pattern.segments

/-- Whether the pattern is one for episodes: it has a season or an episode. -/
def isTv (pattern : Pattern) : Bool := pattern.contains .season || pattern.contains .episode

/-- The relative path for the metadata. -/
def generate (pattern : Pattern) (context : Context) : String :=
  String.ofList (render context pattern.segments)

/-- The place below `root` where the metadata put a file. -/
def destination (pattern : Pattern) (root : Path) (context : Context) : Path :=
  ((Text.splitBy (· == '/') (render context pattern.segments)).filter (! ·.isEmpty)).foldl
    Path.push root

/-- How season and episodes were found. -/
inductive MatchedBy where
  /-- The path follows the pattern. -/
  | pattern
  /-- The file name is written in some usual way. -/
  | heuristic (h : Heuristic)
  deriving DecidableEq, Repr

/-- Zero for the pattern, else the place of the heuristic in the cascade. -/
def MatchedBy.index : MatchedBy → Nat
  | pattern => 0
  | heuristic h => h.index

/-- Season and episodes of a file. -/
structure ParsedEpisode where
  season : UInt32
  /-- The episodes in the order in which they were found; there is at least one. -/
  episodes : List UInt32
  matchedBy : MatchedBy
  /-- The name of the show, if there was one beside the numbers. -/
  term : Option String
  deriving DecidableEq, Repr

/-- What a file name tells of a film. -/
structure FilmDetails where
  term : String
  year : Option String := none
  part : Option UInt32 := none
  deriving DecidableEq, Repr

/-- The path with backslashes read as slashes. -/
def forwardSlashes (path : List Char) : List Char :=
  path.map fun c => if c = '\\' then '/' else c

/-- The text of the first group for the token that took part in the match, unless it is empty. -/
def capture? (trace : Regex.Trace Token) (kind : Token) : Option (List Char) :=
  (Regex.Trace.group? kind trace).filter (! ·.isEmpty)

/-- The numbers of an episode text: numerals with ampersands and blanks between them. -/
def readEpisodes? (text : List Char) : Option (List UInt32) :=
  (Text.splitBy (· == '&') text).mapM fun piece => Text.readWord? (Text.trim piece)

/-- Season and episodes of a path that follows the pattern. -/
def matchEpisode? (pattern : Pattern) (path : List Char) : Option ParsedEpisode := do
  let trace ← matchPath? pattern.segments path
  let season ← Text.readWord? (← capture? trace .season)
  let episodes ← readEpisodes? (← capture? trace .episode)
  pure ⟨season, episodes, .pattern, (capture? trace .showName).map String.ofList⟩

/-- The last component of a path. -/
def lastComponent (path : List Char) : List Char :=
  (path.reverse.takeWhile (· != '/')).reverse

/-- Season and episodes of a path relative to the root of its media directory: by the pattern if
the path follows it, else by the heuristics from the file name alone. -/
def parseEpisode (pattern : Pattern) (path : String) : Option ParsedEpisode :=
  let path := forwardSlashes path.toList
  (pattern.matchEpisode? path).or <|
    (recognise? (lastComponent path)).map fun found =>
      ⟨found.season, found.episodes, .heuristic found.heuristic, found.term.map String.ofList⟩

/-- Title, year and part of a path that follows the pattern, the title as written apart from
decorations and runs of blanks. -/
def matchFilm (pattern : Pattern) (path : String) : Option FilmDetails := do
  let trace ← matchPath? pattern.segments (forwardSlashes path.toList)
  let title ← capture? trace .title
  let bare := stripDecorations title
  let year := (capture? trace .year).or bare.year
  let part := ((capture? trace .part).bind Text.readWord?).or bare.part
  let term := Text.collapseBlanks bare.title
  if term.isEmpty then none
  else some ⟨String.ofList term, year.map String.ofList, part⟩

/-- Title, year and part of a path that follows the pattern, the title normalized. -/
def parseFilm (pattern : Pattern) (path : String) : Option FilmDetails := do
  let details ← pattern.matchFilm path
  let term := Text.normalize details.term
  if term.isEmpty then none else some { details with term }

end Pattern

end MediaShelf
