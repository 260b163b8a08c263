import MediaShelf.Store.Basic

/-!
# Calls of stores

What is asked of a store and what comes back, as data, so that calls can be watched, refused or
counted.

## Main definitions

* `Tier.Call`, `Tier.Answer` — what a store may be asked, and what comes back
* `Tier.ask` — a call made
* `Tier.around` — a store with something done around each call
-/

namespace MediaShelf.Tier

/-- What a store may be asked. -/
inductive Call where
  | getShow (key : CatalogKey)
  | getSeason (key : SeasonKey)
  | getEpisode (key : EpisodeKey)
  | getFilm (key : CatalogKey)
  | searchMedia (query : Query)
  | cacheShow (record : Show)
  | cacheSeason (season : Season)
  | cacheEpisode (episode : Episode)
  | cacheFilm (film : Film)
  | cacheSearch (query : Query) (result : SearchResult)
  deriving DecidableEq, Repr

/-- Whether the call changes the store. -/
def Call.isWrite : Call → Bool
  | cacheShow _ | cacheSeason _ | cacheEpisode _ | cacheFilm _ | cacheSearch _ _ => true
  | _ => false

/-- What comes back from a call of a store. -/
inductive Answer where
  | show (answer : Except StoreError (Option Show))
  | season (answer : Except StoreError (Option Season))
  | episode (answer : Except StoreError (Option Episode))
  | film (answer : Except StoreError (Option Film))
  | search (answer : Except StoreError (Option SearchResult))
  /-- What comes back from a write. -/
  | done (answer : Except StoreError Unit)

/-- Whether a write or an opening failed. -/
def Answer.failed : Answer → Bool
  | .done (.error _) => true
  | _ => false

/-- What the store gives for a call. -/
def ask {m : Type → Type} [Monad m] (tier : Tier m) : Call → m Answer
  | .getShow key => do return .show (← tier.getShow key)
  | .getSeason key => do return .season (← tier.getSeason key)
  | .getEpisode key => do return .episode (← tier.getEpisode key)
  | .getFilm key => do return .film (← tier.getFilm key)
  | .searchMedia query => do return .search (← tier.searchMedia query)
  | .cacheShow record => do return .done (← tier.cacheShow record)
  | .cacheSeason season => do return .done (← tier.cacheSeason season)
  | .cacheEpisode episode => do return .done (← tier.cacheEpisode episode)
  | .cacheFilm film => do return .done (← tier.cacheFilm film)
  | .cacheSearch query result => do return .done (← tier.cacheSearch query result)

/-- The store with each call put into the hands of `wrap`, which may or may not make it. -/
def around {m : Type → Type}
    (wrap : {α : Type} → Call → m (Except StoreError α) → m (Except StoreError α))
    (tier : Tier m) : Tier m where
  name := tier.name
  getShow key := wrap (.getShow key) (tier.getShow key)
  getSeason key := wrap (.getSeason key) (tier.getSeason key)
  getEpisode key := wrap (.getEpisode key) (tier.getEpisode key)
  getFilm key := wrap (.getFilm key) (tier.getFilm key)
  searchMedia query := wrap (.searchMedia query) (tier.searchMedia query)
  cacheShow record := wrap (.cacheShow record) (tier.cacheShow record)
  cacheSeason season := wrap (.cacheSeason season) (tier.cacheSeason season)
  cacheEpisode episode := wrap (.cacheEpisode episode) (tier.cacheEpisode episode)
  cacheFilm film := wrap (.cacheFilm film) (tier.cacheFilm film)
  cacheSearch query result := wrap (.cacheSearch query result) (tier.cacheSearch query result)

end MediaShelf.Tier
