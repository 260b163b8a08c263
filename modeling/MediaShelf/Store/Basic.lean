import MediaShelf.FileTree.Disk
import MediaShelf.Record.Basic

/-!
# Stores

Stores keep records that sources gave. A resolver has several of them, the quickest first. A look-up
that finds nothing is no failure, and writing a record replaces the one kept under the same key.

## Main definitions

* `CatalogKey`, `SeasonKey`, `EpisodeKey` — what records are looked up by
* `CacheError`, `StoreError` — why a store refuses something
* `Tier` — a store as a resolver sees it, with effects in a monad
* `Tier.lift` — a store in a larger world
-/

namespace MediaShelf

/-- A catalog and the id of a show or film in it. -/
structure CatalogKey where
  sourceId : String
  id : String
  deriving DecidableEq, Repr

/-- A season of a show of a catalog. -/
structure SeasonKey where
  sourceId : String
  showId : String
  season : UInt32
  deriving DecidableEq, Repr

/-- A number within a season; specials have numbers of their own. -/
structure EpisodeKey where
  season : SeasonKey
  special : Bool
  number : UInt32
  deriving DecidableEq, Repr

/-- The key of a show. -/
def Show.key (record : Show) : CatalogKey := ⟨record.sourceId, record.showId⟩

/-- The key of a film. -/
def Film.key (film : Film) : CatalogKey := ⟨film.sourceId, film.filmId⟩

/-- The key of a season. -/
def Season.key (season : Season) : SeasonKey :=
  ⟨season.sourceId, season.showId, season.seasonNumber⟩

/-- The key of the season that an episode belongs to. -/
def Episode.seasonKey (episode : Episode) : SeasonKey :=
  ⟨episode.sourceId, episode.showId, episode.seasonNumber⟩

/-- The keys of an episode, one for each of its numbers. -/
def Episode.keys (episode : Episode) : List EpisodeKey :=
  episode.episodeNumbers.map fun number => ⟨episode.seasonKey, episode.special, number⟩

/-- The entry of a season for a number, among its specials or its regular episodes. -/
def Season.numbered? (season : Season) (special : Bool) (number : UInt32) : Option Episode :=
  if special then season.special? number else season.episode? number

/-- Why records on disk cannot be kept or read. -/
inductive CacheError where
  | directoryCreationFailed (path : Path) (cause : IoError)
  | readFailed (path : Path) (cause : IoError)
  | writeFailed (path : Path) (cause : IoError)
  | removeFailed (path : Path) (cause : IoError)
  /-- The file holds no record of the expected kind. -/
  | deserializationFailed (path : Path)
  deriving DecidableEq, Repr

namespace CacheError

/-- The wording of an error without its cause. -/
def summary : CacheError → String
  | directoryCreationFailed path _ => "Failed to create cache directory at " ++ path.toString
  | readFailed path _ => "Failed to read cache file " ++ path.toString
  | writeFailed path _ => "Failed to write cache file " ++ path.toString
  | removeFailed path _ => "Failed to remove cache file " ++ path.toString
  | deserializationFailed path => "Failed to deserialize cache file " ++ path.toString

/-- The wording of the cause of an error. -/
def cause : CacheError → String
  | directoryCreationFailed _ cause | readFailed _ cause | writeFailed _ cause
  | removeFailed _ cause => cause.message
  | deserializationFailed _ => "not a record of this kind"

/-- The wording of an error. -/
def message (e : CacheError) : String := e.summary ++ ": " ++ e.cause

end CacheError

/-- Why a store refuses something. -/
inductive StoreError where
  /-- The records on disk are at fault. -/
  | cache (cause : CacheError)
  /-- The store is out of service. -/
  | unavailable (reason : String)
  deriving DecidableEq, Repr

namespace StoreError

/-- The wording of an error without the cause of a fault on disk. -/
def summary : StoreError → String
  | cache cause => "Cache error: " ++ cause.summary
  | unavailable reason => "Store unavailable: " ++ reason

/-- The wording of an error. -/
def message : StoreError → String
  | cache cause => "Cache error: " ++ cause.message
  | unavailable reason => "Store unavailable: " ++ reason

end StoreError

/-- A store as a resolver sees it. -/
structure Tier (m : Type → Type) where
  /-- What the store is called in messages. -/
  name : String
  getShow : CatalogKey → m (Except StoreError (Option Show))
  getSeason : SeasonKey → m (Except StoreError (Option Season))
  getEpisode : EpisodeKey → m (Except StoreError (Option Episode))
  getFilm : CatalogKey → m (Except StoreError (Option Film))
  /-- What an earlier search for the same query led to. -/
  searchMedia : Query → m (Except StoreError (Option SearchResult))
  cacheShow : Show → m (Except StoreError Unit)
  /-- Keeps a season in place of an earlier one and of all that was kept of its episodes. -/
  cacheSeason : Season → m (Except StoreError Unit)
  cacheEpisode : Episode → m (Except StoreError Unit)
  cacheFilm : Film → m (Except StoreError Unit)
  cacheSearch : Query → SearchResult → m (Except StoreError Unit)

/-- The store with its effects carried over into another monad. -/
def Tier.lift {m n : Type → Type} (carry : {α : Type} → m α → n α) (tier : Tier m) : Tier n where
  name := tier.name
  getShow key := carry (tier.getShow key)
  getSeason key := carry (tier.getSeason key)
  getEpisode key := carry (tier.getEpisode key)
  getFilm key := carry (tier.getFilm key)
  searchMedia query := carry (tier.searchMedia query)
  cacheShow record := carry (tier.cacheShow record)
  cacheSeason season := carry (tier.cacheSeason season)
  cacheEpisode episode := carry (tier.cacheEpisode episode)
  cacheFilm film := carry (tier.cacheFilm film)
  cacheSearch query result := carry (tier.cacheSearch query result)

end MediaShelf
