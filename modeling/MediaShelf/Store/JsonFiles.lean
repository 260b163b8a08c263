import MediaShelf.Store.RecordFolder

/-!
# The store on disk

## Main definitions

* `JsonStore` — a folder for each kind of record
* `JsonStore.make` — opens the folders below a directory
* `JsonStore.findEpisode` — an episode kept by itself, or else as part of its season
* `JsonStore.tier` — the folders as a store
-/

namespace MediaShelf

/-- The identifier of a show or film. -/
def CatalogKey.identifier (key : CatalogKey) : String := key.sourceId ++ "/" ++ key.id

/-- The identifier of a season. -/
def SeasonKey.identifier (key : SeasonKey) : String :=
  key.sourceId ++ "/" ++ key.showId ++ "/" ++ String.ofList (Text.decimal key.season.toNat)

/-- What the identifiers of the episodes or of the specials of a season start with. -/
def SeasonKey.episodeStart (key : SeasonKey) (special : Bool) : String :=
  key.identifier ++ (if special then "/special/" else "/episode/")

/-- The identifier of an episode. -/
def EpisodeKey.identifier (key : EpisodeKey) : String :=
  key.season.episodeStart key.special ++ String.ofList (Text.decimal key.number.toNat)

/-- Folders for all kinds of records. -/
structure JsonStore where
  shows : RecordFolder Show
  seasons : RecordFolder Season
  episodes : RecordFolder Episode
  films : RecordFolder Film
  searches : RecordFolder SearchResult

namespace JsonStore

/-- Opens the folders below a directory, up to the first that cannot be made. -/
def make (base : Path) (ttl : Option Nat) : StateM Disk (Except CacheError JsonStore) :=
  ExceptT.run do
    let shows ← ExceptT.mk (RecordFolder.make base "shows" ttl Show.codec)
    let seasons ← ExceptT.mk (RecordFolder.make base "seasons" ttl Season.codec)
    let episodes ← ExceptT.mk (RecordFolder.make base "episodes" ttl Episode.codec)
    let films ← ExceptT.mk (RecordFolder.make base "films" ttl Film.codec)
    let searches ← ExceptT.mk (RecordFolder.make base "searches" ttl SearchResult.codec)
    pure { shows, seasons, episodes, films, searches }

/-- The episode kept under the key, or else the entry of its season. -/
def findEpisode (store : JsonStore) (disk : Disk) (key : EpisodeKey) :
    Except CacheError (Option Episode) := do
  match ← store.episodes.load disk key.identifier with
  | some episode => pure (some episode)
  | none =>
    let season ← store.seasons.load disk key.season.identifier
    pure (season.bind (·.numbered? key.special key.number))

/-- Keeps a season; the files of the episodes of the old one go first. -/
def putSeason (store : JsonStore) (season : Season) : StateM Disk (Except CacheError Unit) :=
  ExceptT.run do
    let _ ← ExceptT.mk (store.episodes.removePrefixed (season.key.episodeStart false))
    let _ ← ExceptT.mk (store.episodes.removePrefixed (season.key.episodeStart true))
    ExceptT.mk (store.seasons.store season.key.identifier season)

/-- Keeps an episode under some keys, up to the first that fails. -/
def putEpisodeAt (store : JsonStore) (episode : Episode) :
    List EpisodeKey → StateM Disk (Except CacheError Unit)
  | [] => pure (.ok ())
  | key :: keys => do
    match ← store.episodes.store key.identifier episode with
    | .ok () => putEpisodeAt store episode keys
    | .error e => pure (.error e)

/-- A look-up. -/
def reading {α : Type} (read : Disk → Except CacheError α) : StateM Disk (Except StoreError α) :=
  fun disk => ((read disk).mapError .cache, disk)

/-- A change. -/
def writing (write : StateM Disk (Except CacheError Unit)) :
    StateM Disk (Except StoreError Unit) := do
  pure ((← write).mapError .cache)

/-- The folders as a store. -/
def tier (store : JsonStore) : Tier (StateM Disk) where
  name := "json"
  getShow key := reading fun disk => store.shows.load disk key.identifier
  getSeason key := reading fun disk => store.seasons.load disk key.identifier
  getEpisode key := reading fun disk => store.findEpisode disk key
  getFilm key := reading fun disk => store.films.load disk key.identifier
  searchMedia query := reading fun disk => store.searches.load disk query.key
  cacheShow record := writing (store.shows.store record.key.identifier record)
  cacheSeason season := writing (store.putSeason season)
  cacheEpisode episode := writing (store.putEpisodeAt episode episode.keys)
  cacheFilm film := writing (store.films.store film.key.identifier film)
  cacheSearch query result := writing (store.searches.store query.key result)

end JsonStore

end MediaShelf
