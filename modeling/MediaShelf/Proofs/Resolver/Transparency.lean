import MediaShelf.Proofs.Resolver.Truthful
import MediaShelf.Proofs.Store.Memory
import MediaShelf.Proofs.Store.Shelf

/-!
# Stores do not show

As long as the sources answer the same whenever they are asked the same, a resolver with stores
gives what the sources give, however its requests are mixed and whichever calls of its stores are
refused.

The invariant is that stores hold nothing but what the sources would answer: a show, a season and a
film under their keys, and under the key of an episode what the season of the source has there.

## Main definitions

* `MemoryStore.Agrees`, `Shelf.Agrees` — stores that hold nothing but answers of the sources

## Main results

* `MemoryStore.tier_truthful`, `Shelf.tier_truthful` — stores that agree with the sources are
  truthful
* `replies_tiers_eq_replies_nil` — stores make no difference to any sequence of requests
-/

namespace MediaShelf

section Agreement

variable {catalogs : List (String × Source.Answers)}

/-- Whatever the store holds, by itself, the sources give for the same key. -/
structure MemoryStore.Agrees (catalogs : List (String × Source.Answers)) (store : MemoryStore) :
    Prop where
  shows : ∀ {key record}, store.shows.lookup key = some record →
    trueShow catalogs key = .ok (some record)
  seasons : ∀ {key season}, store.seasons.lookup key = some season →
    trueSeason catalogs key = .ok (some season)
  episodes : ∀ {key episode}, store.episodes.lookup key = some episode →
    trueEpisode catalogs key = .ok (some episode)
  films : ∀ {key film}, store.films.lookup key = some film →
    trueFilm catalogs key = .ok (some film)

/-- All stores hold nothing but what the sources give. -/
def Shelf.Agrees (catalogs : List (String × Source.Answers)) (shelf : Shelf) : Prop :=
  ∀ store ∈ shelf.stores, store.Agrees catalogs

/-! ### Stores keep the invariant -/

namespace MemoryStore.Agrees

variable {store : MemoryStore}

theorem empty : MemoryStore.Agrees catalogs {} := by
  constructor <;> simp

/-- An episode is found as the sources give it, whether it was kept by itself or with its
season. -/
theorem findEpisode? (h : store.Agrees catalogs) {key : EpisodeKey} {episode : Episode}
    (hfind : store.findEpisode? key = some episode) :
    trueEpisode catalogs key = .ok (some episode) := by
  rcases Option.or_eq_some_iff.mp hfind with hown | ⟨-, hseason⟩
  · exact h.episodes hown
  · obtain ⟨season, hkept, hnumbered⟩ := Option.bind_eq_some_iff.mp hseason
    simp [trueEpisode, h.seasons hkept, Except.map, hnumbered]

theorem putShow (h : store.Agrees catalogs) {record : Show}
    (hrecord : trueShow catalogs record.key = .ok (some record)) :
    (store.putShow record).Agrees catalogs where
  shows {key} found hfound := by
    rw [lookup_putShow] at hfound
    split at hfound
    · rename_i hkey
      rw [hkey, hrecord, hfound]
    · exact h.shows hfound
  seasons := h.seasons
  episodes := h.episodes
  films := h.films

theorem putFilm (h : store.Agrees catalogs) {film : Film}
    (hfilm : trueFilm catalogs film.key = .ok (some film)) :
    (store.putFilm film).Agrees catalogs where
  shows := h.shows
  seasons := h.seasons
  episodes := h.episodes
  films {key} found hfound := by
    rw [lookup_putFilm] at hfound
    split at hfound
    · rename_i hkey
      rw [hkey, hfilm, hfound]
    · exact h.films hfound

theorem putSeason (h : store.Agrees catalogs) {season : Season}
    (hseason : trueSeason catalogs season.key = .ok (some season)) :
    (store.putSeason season).Agrees catalogs where
  shows := h.shows
  seasons {key} found hfound := by
    rw [seasons_putSeason] at hfound
    split at hfound
    · rename_i hkey
      rw [hkey, hseason, hfound]
    · exact h.seasons hfound
  episodes {key} found hfound := by
    rw [episodes_putSeason] at hfound
    split at hfound
    · cases hfound
    · exact h.episodes hfound
  films := h.films

theorem putEpisode (h : store.Agrees catalogs) {episode : Episode}
    (hepisode : ∀ key ∈ episode.keys, trueEpisode catalogs key = .ok (some episode)) :
    (store.putEpisode episode).Agrees catalogs where
  shows := h.shows
  seasons := h.seasons
  episodes {key} found hfound := by
    rw [lookup_putEpisode] at hfound
    split at hfound
    · rename_i hkey
      rw [hepisode key hkey, hfound]
    · exact h.episodes hfound
  films := h.films

end MemoryStore.Agrees

/-- The store of a process is truthful under any invariant that implies agreement with the sources
and asks for nothing more of its records. It may ask for more of its searches. -/
theorem MemoryStore.tier_truthful {inv : MemoryStore → Prop}
    (hagrees : ∀ store, inv store → store.Agrees catalogs)
    (hrecords : ∀ store next : MemoryStore, inv store → next.Agrees catalogs →
      next.searches = store.searches → inv next) :
    MemoryStore.tier.Truthful catalogs inv where
  getShow _ := fun store hstore =>
    ⟨fun _ h => (hagrees store hstore).shows (Except.ok.inj h), hstore⟩
  getSeason _ := fun store hstore =>
    ⟨fun _ h => (hagrees store hstore).seasons (Except.ok.inj h), hstore⟩
  getEpisode _ := fun store hstore =>
    ⟨fun _ h => (hagrees store hstore).findEpisode? (Except.ok.inj h), hstore⟩
  getFilm _ := fun store hstore =>
    ⟨fun _ h => (hagrees store hstore).films (Except.ok.inj h), hstore⟩
  cacheShow _ hrecord := fun store hstore =>
    ⟨trivial, hrecords store _ hstore ((hagrees store hstore).putShow hrecord) rfl⟩
  cacheSeason _ hseason := fun store hstore =>
    ⟨trivial, hrecords store _ hstore ((hagrees store hstore).putSeason hseason) rfl⟩
  cacheEpisode _ hepisode := fun store hstore =>
    ⟨trivial, hrecords store _ hstore ((hagrees store hstore).putEpisode hepisode) rfl⟩
  cacheFilm _ hfilm := fun store hstore =>
    ⟨trivial, hrecords store _ hstore ((hagrees store hstore).putFilm hfilm) rfl⟩

namespace Shelf

variable {refusals : Nat → Option StoreError} {α : Type}

theorem Agrees.empty (size : Nat) : (Shelf.empty size).Agrees catalogs := by
  intro store hstore
  rw [List.eq_of_mem_replicate hstore]
  exact .empty

theorem keeps_onStore {i : Nat} {effect : StateM MemoryStore α} {post : α → Prop}
    (h : Keeps (MemoryStore.Agrees catalogs) effect post) :
    Keeps (Agrees catalogs) (onStore i effect) post := by
  intro shelf hshelf
  -- where there is no store, an empty one stands in for it
  have hstore : (shelf.stores[i]?.getD {}).Agrees catalogs := by
    cases hi : shelf.stores[i]? with
    | none => exact .empty
    | some store => exact hshelf store (List.mem_of_getElem? hi)
  obtain ⟨hpost, hnext⟩ := h _ hstore
  refine ⟨hpost, fun store hmem => ?_⟩
  rcases List.mem_or_eq_of_mem_set hmem with hold | rfl
  · exact hshelf store hold
  · exact hnext

/-- A call that may be refused keeps what the call itself keeps, if a refusal does no harm. -/
theorem keeps_call {i : Nat} {call : StateM MemoryStore (Except StoreError α)}
    {post : Except StoreError α → Prop} (h : Keeps (MemoryStore.Agrees catalogs) call post)
    (herror : ∀ e, post (.error e)) :
    Keeps (Agrees catalogs) (refusing refusals (onStore i call)) post := by
  intro shelf hshelf
  unfold refusing
  split
  · exact ⟨herror _, hshelf⟩
  · exact keeps_onStore h _ hshelf

/-- A store that agrees with the sources is truthful, whichever of its calls are refused. -/
theorem tier_truthful (i : Nat) : (tier refusals i).Truthful catalogs (Agrees catalogs) := by
  have hstore : MemoryStore.tier.Truthful catalogs (MemoryStore.Agrees catalogs) :=
    MemoryStore.tier_truthful (fun _ h => h) fun _ _ _ h _ => h
  constructor
  · exact fun key => keeps_call (hstore.getShow key) echoes_error
  · exact fun key => keeps_call (hstore.getSeason key) echoes_error
  · exact fun key => keeps_call (hstore.getEpisode key) echoes_error
  · exact fun key => keeps_call (hstore.getFilm key) echoes_error
  · exact fun record h => keeps_call (hstore.cacheShow record h) fun _ => trivial
  · exact fun season h => keeps_call (hstore.cacheSeason season h) fun _ => trivial
  · exact fun episode h => keeps_call (hstore.cacheEpisode episode h) fun _ => trivial
  · exact fun film h => keeps_call (hstore.cacheFilm film h) fun _ => trivial

theorem tiers_truthful (refusals : Nat → Option StoreError) (size : Nat) :
    ∀ tier ∈ tiers refusals size, tier.Truthful catalogs (Agrees catalogs) := by
  intro tier htier
  obtain ⟨i, -, rfl⟩ := List.mem_map.mp htier
  exact tier_truthful i

end Shelf

/-- Requests in order give what the sources give. -/
theorem keeps_replies (hfaithful : ∀ catalog ∈ catalogs, catalog.2.Faithful catalog.1)
    (refusals : Nat → Option StoreError) (size : Nat) (requests : List (Lookup × Bool)) :
    Keeps (Shelf.Agrees catalogs)
      (Resolver.replies ⟨Shelf.tiers refusals size, sourcesOf catalogs⟩ requests)
      (· = requests.map (trueReply catalogs ·.1)) := by
  induction requests with
  | nil => exact .pure rfl
  | cons request requests ih =>
    refine (Resolver.keeps_reply hfaithful (Shelf.tiers_truthful refusals size) request.1).bind
      fun first hfirst => ?_
    exact ih.bind fun rest hrest => .pure (by rw [hfirst, hrest, List.map_cons])

end Agreement

/-- With any number of memory stores, empty at first, any of whose calls may be refused, requests
in any order and with any refresh flags are answered as they are without stores. -/
theorem replies_tiers_eq_replies_nil (catalogs : List (String × Source.Answers))
    (hfaithful : ∀ catalog ∈ catalogs, catalog.2.Faithful catalog.1)
    (refusals : Nat → Option StoreError) (size : Nat) (requests : List (Lookup × Bool)) :
    (Resolver.replies ⟨Shelf.tiers refusals size, sourcesOf catalogs⟩ requests (.empty size)).1 =
      (Resolver.replies (m := StateM Shelf) ⟨[], sourcesOf catalogs⟩ requests (.empty 0)).1 := by
  -- both give what the sources give, since no stores at all are stores like any other
  have hstores := keeps_replies hfaithful refusals size requests
  have hnone := keeps_replies hfaithful refusals 0 requests
  exact (hstores _ (.empty size)).1.trans (hnone _ (.empty 0)).1.symm

/-- A catalog of one show with one season, two numbers of which share a file. -/
def oneSeason : Source.Answers :=
  let entry (numbers : List UInt32) (special : Bool) : Episode :=
    { sourceId := "tvmaze", showId := "7", seasonNumber := 1, episodeNumbers := numbers,
      title := "Pilot", special }
  { getShow := fun id =>
      if id = "7" then .ok (some { sourceId := "tvmaze", showId := id, name := "Lost" })
      else .error (.request "no route")
    getSeason := fun id number =>
      if id = "7" ∧ number = 1 then
        .ok (some { sourceId := "tvmaze", showId := id, seasonNumber := number,
                    episodes := [entry [1, 2] false, entry [3] false],
                    specials := [entry [1] true] })
      else .ok none
    getFilm := fun _ => .ok none
    searchMedia := fun _ => .ok none }

theorem oneSeason_faithful : oneSeason.Faithful "tvmaze" where
  getShow {key record} h := by
    simp only [oneSeason] at h
    split at h
    · cases h
      rfl
    · cases h
  getSeason {key n season} h := by
    simp only [oneSeason] at h
    split at h
    · rename_i hkey
      obtain ⟨rfl, rfl⟩ := hkey
      cases h
      refine ⟨rfl, ⟨?_, ?_, ?_⟩, ⟨?_, ?_, ?_⟩⟩ <;> simp [Episode.seasonKey, Season.key]
    · cases h
  getFilm h := by cases h

/-- Two stores that refuse every third call, and requests of all kinds that meet a cached season. -/
theorem replies_tiers_eq_replies_nil_oneSeason :
    let season : SeasonKey := ⟨"tvmaze", "7", 1⟩
    let refusals : Nat → Option StoreError := fun n =>
      if n % 3 = 2 then some (.unavailable "full") else none
    let requests : List (Lookup × Bool) :=
      [(.episode ⟨season, false, 2⟩, false), (.season season, false),
        (.episode ⟨season, true, 1⟩, true), (.show ⟨"tvmaze", "8"⟩, false),
        (.film ⟨"tvmaze", "7"⟩, false), (.episode ⟨season, false, 3⟩, false)]
    (∀ catalog ∈ [("tvmaze", oneSeason)], catalog.2.Faithful catalog.1) ∧
    (Resolver.replies ⟨Shelf.tiers refusals 2, sourcesOf [("tvmaze", oneSeason)]⟩ requests
        (.empty 2)).1 =
      (Resolver.replies (m := StateM Shelf) ⟨[], sourcesOf [("tvmaze", oneSeason)]⟩ requests
        (.empty 0)).1 := by
  have hfaithful : ∀ catalog ∈ [("tvmaze", oneSeason)], catalog.2.Faithful catalog.1 := by
    simpa using oneSeason_faithful
  exact ⟨hfaithful, replies_tiers_eq_replies_nil _ hfaithful _ 2 _⟩

end MediaShelf
