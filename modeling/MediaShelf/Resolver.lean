import MediaShelf.Source.Basic
import MediaShelf.Store.Basic

/-!
# Resolving records

A resolver asks its stores in order, and the source named in the request when none of them knows
the record. What a later store or a source gives is written into the stores before it. With
`refresh` only the first store is asked, so that what this process has met is used again while the
others are passed over.

## Main definitions

* `Resolver` — stores and sources in order
* `readTiers` — the first record that a store gives
* `Resolver.resolve` — stores first, then the source
* `Resolver.getShow`, `getSeason`, `getEpisode`, `getFilm` — records by their keys
* `Resolver.searchMedia` — the identity that a query leads to
-/

namespace MediaShelf

variable {m : Type → Type} [Monad m] {α : Type}

/-- Writes a record into stores. A store that refuses it is passed over. -/
def populate (write : Tier m → α → m (Except StoreError Unit)) (value : α) :
    List (Tier m) → m Unit
  | [] => pure ()
  | tier :: tiers => do
    let _ ← write tier value
    populate write value tiers

/-- The first record that a store gives, with the stores `passed` already known to have none. A
store that fails counts as having none. The record is written into the stores before. -/
def readTiersFrom (read : Tier m → m (Except StoreError (Option α)))
    (write : Tier m → α → m (Except StoreError Unit)) (passed : List (Tier m)) :
    List (Tier m) → m (Option α)
  | [] => pure none
  | tier :: tiers => do
    match ← read tier with
    | .ok (some value) =>
      populate write value passed
      pure (some value)
    | _ => readTiersFrom read write (passed ++ [tier]) tiers

/-- The first record that a store gives. -/
def readTiers (read : Tier m → m (Except StoreError (Option α)))
    (write : Tier m → α → m (Except StoreError Unit)) (tiers : List (Tier m)) : m (Option α) :=
  readTiersFrom read write [] tiers

/-- Writes episodes into a store, up to the first that it refuses. -/
def writeEpisodes (tier : Tier m) : List Episode → m (Except StoreError Unit)
  | [] => pure (.ok ())
  | episode :: episodes => do
    match ← tier.cacheEpisode episode with
    | .ok () => writeEpisodes tier episodes
    | .error e => pure (.error e)

/-- Writes a season into a store, then its episodes and its specials. -/
def writeSeason (tier : Tier m) (season : Season) : m (Except StoreError Unit) := do
  match ← tier.cacheSeason season with
  | .ok () => writeEpisodes tier (season.episodes ++ season.specials)
  | .error e => pure (.error e)

/-- Stores and sources in the order in which they are asked. -/
structure Resolver (m : Type → Type) where
  tiers : List (Tier m)
  sources : List (Source m)

namespace Resolver

/-- The ids of the sources in order. -/
def sourceIds (resolver : Resolver m) : List String := resolver.sources.map (·.sourceId)

/-- The stores that are asked: all of them, or the first alone. -/
def readable (resolver : Resolver m) (refresh : Bool) : List (Tier m) :=
  if refresh then resolver.tiers.take 1 else resolver.tiers

/-- A record from the stores, or else from the source with the id; an id that no source has leads
to nothing. What the source gives is written into all stores. -/
def resolve (resolver : Resolver m) (sourceId : String) (refresh : Bool)
    (read : Tier m → m (Except StoreError (Option α)))
    (fetch : Source m → m (Except SourceError (Option α)))
    (write : Tier m → α → m (Except StoreError Unit)) : m (Except SourceError (Option α)) := do
  match ← readTiers read write (resolver.readable refresh) with
  | some value => pure (.ok (some value))
  | none =>
    match resolver.sources.find? (·.sourceId == sourceId) with
    | none => pure (.ok none)
    | some source =>
      match ← fetch source with
      | .ok (some value) =>
        populate write value resolver.tiers
        pure (.ok (some value))
      | answer => pure answer

/-- The show with the key. -/
def getShow (resolver : Resolver m) (key : CatalogKey) (refresh : Bool) :
    m (Except SourceError (Option Show)) :=
  resolver.resolve key.sourceId refresh (·.getShow key) (·.getShow key.id) (·.cacheShow ·)

/-- The season with the key. -/
def getSeason (resolver : Resolver m) (key : SeasonKey) (refresh : Bool) :
    m (Except SourceError (Option Season)) :=
  resolver.resolve key.sourceId refresh (·.getSeason key) (·.getSeason key.showId key.season)
    writeSeason

/-- The episode or special with the key. If no store knows it, its whole season is resolved, so
that the other episodes of the season are known from then on. -/
def getEpisode (resolver : Resolver m) (key : EpisodeKey) (refresh : Bool) :
    m (Except SourceError (Option Episode)) := do
  match ← readTiers (·.getEpisode key) (·.cacheEpisode ·) (resolver.readable refresh) with
  | some episode => pure (.ok (some episode))
  | none =>
    let season ← resolver.getSeason key.season refresh
    pure (season.map (·.bind (·.numbered? key.special key.number)))

/-- The film with the key. -/
def getFilm (resolver : Resolver m) (key : CatalogKey) (refresh : Bool) :
    m (Except SourceError (Option Film)) :=
  resolver.resolve key.sourceId refresh (·.getFilm key) (·.getFilm key.id) (·.cacheFilm ·)

/-- A search in a store, where only results from the allowed sources count. -/
def searchTier (allowed : List String) (query : Query) (tier : Tier m) :
    m (Except StoreError (Option SearchResult)) := do
  let answer ← tier.searchMedia query
  pure (answer.map (·.filter fun result => allowed.contains result.sourceId))

/-- The first result that one of the sources gives, or the first failure. -/
def searchSources (query : Query) : List (Source m) → m (Except SourceError (Option SearchResult))
  | [] => pure (.ok none)
  | source :: sources => do
    match ← source.searchMedia query with
    | .ok none => searchSources query sources
    | answer => pure answer

/-- The identity that a query leads to, from the stores or else from the allowed sources. -/
def searchMedia (resolver : Resolver m) (query : Query) (allowed : List String) (refresh : Bool) :
    m (Except SourceError (Option SearchResult)) := do
  let write := fun (tier : Tier m) result => tier.cacheSearch query result
  match ← readTiers (searchTier allowed query) write (resolver.readable refresh) with
  | some result => pure (.ok (some result))
  | none =>
    match ← searchSources query (resolver.sources.filter (allowed.contains ·.sourceId)) with
    | .ok (some result) =>
      populate write result resolver.tiers
      pure (.ok (some result))
    | answer => pure answer

end Resolver

end MediaShelf
