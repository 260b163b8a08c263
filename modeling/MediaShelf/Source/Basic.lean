import MediaShelf.Record.Basic
import MediaShelf.Source.Error

/-!
# Sources

Sources are the catalogs that records come from. A catalog that does not know a record gives
nothing, which is no failure.

## Main definitions

* `Source` — a catalog as a resolver sees it, with effects in a monad
* `Source.getEpisode` — an episode by way of its season
* `Source.lift` — a catalog in a larger world
-/

namespace MediaShelf

/-- A catalog as a resolver sees it. -/
structure Source (m : Type → Type) where
  /-- The id that stands in the records of the catalog. -/
  sourceId : String
  getShow : String → m (Except SourceError (Option Show))
  /-- A season of a show with its episodes and specials. -/
  getSeason : String → UInt32 → m (Except SourceError (Option Season))
  getFilm : String → m (Except SourceError (Option Film))
  searchMedia : Query → m (Except SourceError (Option SearchResult))

namespace Source

/-- The entry of a season of the catalog for a number. -/
def getEpisode {m : Type → Type} [Monad m] (source : Source m) (showId : String)
    (season : UInt32) (special : Bool) (number : UInt32) :
    m (Except SourceError (Option Episode)) := do
  let answer ← source.getSeason showId season
  pure (answer.map (·.bind fun season =>
    if special then season.special? number else season.episode? number))

/-- The catalog with its effects carried over into another monad. -/
def lift {m n : Type → Type} (carry : {α : Type} → m α → n α) (source : Source m) : Source n where
  sourceId := source.sourceId
  getShow id := carry (source.getShow id)
  getSeason id season := carry (source.getSeason id season)
  getFilm id := carry (source.getFilm id)
  searchMedia query := carry (source.searchMedia query)

end Source

end MediaShelf
