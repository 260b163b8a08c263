import MediaShelf.Proofs.Lookup
import MediaShelf.Store.Call
import MediaShelf.Store.Memory

/-!
# Look-ups in the store of a running process

Each write changes what is found under its own keys and nothing else; a season also drops the
episodes that were kept for its key.

## Main results

* `Assoc.lookup_insert`, `Assoc.lookup_keep` — look-ups in finite maps
* `MemoryStore.lookup_putEpisode` — an episode is found under each of its numbers
* `MemoryStore.lookup_putSeason` — a season drops the episodes of its key
-/

namespace MediaShelf

namespace Assoc

variable {κ α : Type} [DecidableEq κ] {map : Assoc κ α} {key k : κ} {value : α}

/-- A look-up among the pairs whose keys pass a test. -/
theorem lookup_keep (test : κ → Bool) :
    (keep map test).lookup k = if test k then map.lookup k else none :=
  lookup_filter map test k

/-- Putting a value under a key changes the look-up of that key alone. -/
theorem lookup_insert :
    (insert map key value).lookup k = if k = key then some value else map.lookup k := by
  by_cases hk : k = key
  · simp [insert, hk]
  · have hne : (k == key) = false := by simpa using hk
    have hkeep : (map.filter (·.1 ≠ key)).lookup k = map.lookup k := by
      refine (lookup_keep fun a => decide (a ≠ key)).trans ?_
      simp [hk]
    rw [insert, List.lookup_cons, hne, hkeep, if_neg hk]

/-- One value put under several keys. -/
theorem lookup_foldl_insert {keys : List κ} :
    (keys.foldl (fun map key => insert map key value) map).lookup k =
      if k ∈ keys then some value else map.lookup k := by
  induction keys generalizing map with
  | nil => simp
  | cons a keys ih =>
    rw [List.foldl_cons, ih, lookup_insert]
    by_cases hk : k ∈ keys <;> by_cases ha : k = a <;> simp [hk, ha]

end Assoc

namespace MemoryStore

variable {store : MemoryStore}

theorem lookup_putShow {record : Show} {key : CatalogKey} :
    (store.putShow record).shows.lookup key =
      if key = record.key then some record else store.shows.lookup key :=
  Assoc.lookup_insert

theorem lookup_putFilm {film : Film} {key : CatalogKey} :
    (store.putFilm film).films.lookup key =
      if key = film.key then some film else store.films.lookup key :=
  Assoc.lookup_insert

theorem lookup_putSearch {query : Query} {result : SearchResult} {key : String} :
    (store.putSearch query result).searches.lookup key =
      if key = query.key then some result else store.searches.lookup key :=
  Assoc.lookup_insert

theorem seasons_putSeason {season : Season} {key : SeasonKey} :
    (store.putSeason season).seasons.lookup key =
      if key = season.key then some season else store.seasons.lookup key :=
  Assoc.lookup_insert

theorem episodes_putSeason {season : Season} {key : EpisodeKey} :
    (store.putSeason season).episodes.lookup key =
      if key.season = season.key then none else store.episodes.lookup key := by
  refine (Assoc.lookup_keep fun key : EpisodeKey => decide (key.season ≠ season.key)).trans ?_
  by_cases hkey : key.season = season.key <;> simp [hkey]

theorem lookup_putEpisode {episode : Episode} {key : EpisodeKey} :
    (store.putEpisode episode).episodes.lookup key =
      if key ∈ episode.keys then some episode else store.episodes.lookup key :=
  Assoc.lookup_foldl_insert

/-! ### Reads -/

theorem ask_getShow (key : CatalogKey) :
    (tier.ask (.getShow key) store).1 = .show (.ok (store.shows.lookup key)) := rfl

theorem ask_getSeason (key : SeasonKey) :
    (tier.ask (.getSeason key) store).1 = .season (.ok (store.seasons.lookup key)) := rfl

theorem ask_getEpisode (key : EpisodeKey) :
    (tier.ask (.getEpisode key) store).1 = .episode (.ok (store.findEpisode? key)) := rfl

theorem ask_getFilm (key : CatalogKey) :
    (tier.ask (.getFilm key) store).1 = .film (.ok (store.films.lookup key)) := rfl

theorem ask_searchMedia (query : Query) :
    (tier.ask (.searchMedia query) store).1 = .search (.ok (store.searches.lookup query.key)) :=
  rfl

end MemoryStore

end MediaShelf
