import MediaShelf.Text.Lowercase
import MediaShelf.Text.Numeral

/-!
# Shows, seasons, episodes and films

What catalogs know. Every record carries the id of the catalog it came from, so records of
different catalogs never stand for one another.

## Main definitions

* `Mode` — whether a directory holds episodes or films
* `Show`, `Season`, `Episode`, `Film` — the records
* `Season.episode?`, `Season.special?` — the entry of a season that covers a number
* `Query`, `SearchResult` — a search and what it leads to
* `Query.key` — the name under which a search is kept
-/

namespace MediaShelf

/-- What a media directory holds. -/
inductive Mode where
  | tvShow
  | film
  deriving DecidableEq, Repr

/-- A show as one catalog knows it. -/
structure Show where
  sourceId : String
  showId : String
  name : String
  url : Option String := none
  /-- Plain text. -/
  summary : String := ""
  /-- The date of the first broadcast, year first. -/
  premiered : Option String := none
  genres : List String := []
  deriving DecidableEq, Repr

/-- The text that takes up exactly the first `size` bytes, if there is one. -/
def takeBytes? : Nat → List Char → Option (List Char)
  | 0, _ => some []
  | _, [] => none
  | size, c :: rest =>
    if c.utf8Size ≤ size then (takeBytes? (size - c.utf8Size) rest).map (c :: ·) else none

/-- The year of the first broadcast. -/
def Show.year (record : Show) : Option UInt32 := do
  let date ← record.premiered
  Text.readWord? (← takeBytes? 4 date.toList)

/-- An episode or a special. One file may cover several numbers. -/
structure Episode where
  sourceId : String
  showId : String
  seasonNumber : UInt32
  episodeNumbers : List UInt32
  title : String
  summary : String := ""
  /-- The date of the broadcast, year first. -/
  airDate : Option String := none
  url : Option String := none
  /-- Specials have numbers of their own. -/
  special : Bool := false
  deriving DecidableEq, Repr

/-- Whether the episode has the number. -/
def Episode.covers (episode : Episode) (number : UInt32) : Bool :=
  episode.episodeNumbers.contains number

/-- A season with its episodes and specials. -/
structure Season where
  sourceId : String
  showId : String
  seasonNumber : UInt32
  url : Option String := none
  episodes : List Episode
  specials : List Episode
  deriving DecidableEq, Repr

namespace Season

/-- The first regular episode that covers the number. -/
def episode? (season : Season) (number : UInt32) : Option Episode :=
  season.episodes.find? (·.covers number)

/-- The first special that covers the number. -/
def special? (season : Season) (number : UInt32) : Option Episode :=
  season.specials.find? (·.covers number)

end Season

/-- A film as one catalog knows it. -/
structure Film where
  sourceId : String
  filmId : String
  title : String
  year : Option UInt32 := none
  summary : String := ""
  url : Option String := none
  deriving DecidableEq, Repr

/-- What is searched for. -/
structure Query where
  /-- A normalized term. -/
  term : String
  year : Option String := none
  mode : Mode
  part : Option UInt32 := none
  deriving DecidableEq, Repr

/-- How a mode is spelled in the names of searches. -/
def Mode.label : Mode → String
  | .tvShow => "tv"
  | .film => "film"

/-- The name under which a search is kept. Searches whose terms differ in case alone share it. -/
def Query.key (query : Query) : String :=
  query.mode.label ++ "_" ++ String.ofList (Text.lowercase query.term.toList) ++ "_" ++
    query.year.getD "any"

/-- The identity that a search leads to. -/
structure SearchResult where
  /-- The id of the show or film in its catalog. -/
  id : String
  sourceId : String
  url : Option String := none
  part : Option UInt32 := none
  mode : Mode
  deriving DecidableEq, Repr

end MediaShelf
