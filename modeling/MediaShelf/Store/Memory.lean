import MediaShelf.Store.Basic

/-!
# The store of a running process

## Main definitions

* `Assoc` — finite maps as lists of pairs
* `MemoryStore` — maps from keys to records
* `MemoryStore.findEpisode?` — an episode kept by itself, or else as part of its season
* `MemoryStore.tier` — the maps as a store
-/

namespace MediaShelf

/-- A finite map: of several pairs with one key the first counts. -/
abbrev Assoc (κ α : Type) := List (κ × α)

namespace Assoc

variable {κ α : Type} [DecidableEq κ]

/-- The map with a value put under a key. -/
def insert (map : Assoc κ α) (key : κ) (value : α) : Assoc κ α :=
  (key, value) :: map.filter (·.1 ≠ key)

/-- The map with the values whose keys pass a test. -/
def keep (map : Assoc κ α) (test : κ → Bool) : Assoc κ α := map.filter (test ·.1)

end Assoc

/-- The records that a process has met. -/
structure MemoryStore where
  shows : Assoc CatalogKey Show := []
  seasons : Assoc SeasonKey Season := []
  episodes : Assoc EpisodeKey Episode := []
  films : Assoc CatalogKey Film := []
  /-- Search results by the keys of their queries. -/
  searches : Assoc String SearchResult := []
  deriving DecidableEq, Repr

namespace MemoryStore

/-- The episode kept under the key, or else the entry of its season. -/
def findEpisode? (store : MemoryStore) (key : EpisodeKey) : Option Episode :=
  (store.episodes.lookup key).or
    ((store.seasons.lookup key.season).bind (·.numbered? key.special key.number))

/-- Keeps a show. -/
def putShow (store : MemoryStore) (record : Show) : MemoryStore :=
  { store with shows := Assoc.insert store.shows record.key record }

/-- Keeps a season; the episodes kept of the old one go. -/
def putSeason (store : MemoryStore) (season : Season) : MemoryStore :=
  { store with
    episodes := Assoc.keep store.episodes (·.season ≠ season.key)
    seasons := Assoc.insert store.seasons season.key season }

/-- Keeps an episode under each of its numbers. -/
def putEpisode (store : MemoryStore) (episode : Episode) : MemoryStore :=
  { store with
    episodes := episode.keys.foldl (fun map key => Assoc.insert map key episode) store.episodes }

/-- Keeps a film. -/
def putFilm (store : MemoryStore) (film : Film) : MemoryStore :=
  { store with films := Assoc.insert store.films film.key film }

/-- Keeps a search result. -/
def putSearch (store : MemoryStore) (query : Query) (result : SearchResult) : MemoryStore :=
  { store with searches := Assoc.insert store.searches query.key result }

/-- A look-up, which never fails. -/
def reading {α : Type} (read : MemoryStore → α) : StateM MemoryStore (Except StoreError α) :=
  fun store => (.ok (read store), store)

/-- A change, which never fails. -/
def writing (write : MemoryStore → MemoryStore) : StateM MemoryStore (Except StoreError Unit) :=
  fun store => (.ok (), write store)

/-- The records of a process as a store. -/
def tier : Tier (StateM MemoryStore) where
  name := "memory"
  getShow key := reading (·.shows.lookup key)
  getSeason key := reading (·.seasons.lookup key)
  getEpisode key := reading (·.findEpisode? key)
  getFilm key := reading (·.films.lookup key)
  searchMedia query := reading (·.searches.lookup query.key)
  cacheShow record := writing (·.putShow record)
  cacheSeason season := writing (·.putSeason season)
  cacheEpisode episode := writing (·.putEpisode episode)
  cacheFilm film := writing (·.putFilm film)
  cacheSearch query result := writing (·.putSearch query result)

end MemoryStore

end MediaShelf
