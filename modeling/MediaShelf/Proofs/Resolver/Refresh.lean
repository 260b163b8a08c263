import MediaShelf.Proofs.Record.Season
import MediaShelf.Proofs.Resolver.Journal
import MediaShelf.Proofs.Resolver.Keeps
import MediaShelf.Proofs.Store.Memory
import MediaShelf.Proofs.Store.Shelf

/-!
# A refreshed season

A season that a source gives anew takes the place of an older one. A store that accepts it drops the
episodes that it kept for its key, including those that the season no longer has. Its entries are
then written one by one; where such a write is refused, the entry is still found as part of its
season. So a store is up to date as soon as it has accepted the season, and whatever it held under
other keys stays.

## Main definitions

* `MemoryStore.Settled` — a store in which a season and all of its entries are found
* `MemoryStore.AgreesApart` — stores that differ at most in one season
* `Shelf.resolver` — a resolver over a shelf of stores and any sources
* `Refreshing` — what holds of the stores while a season is written into them

## Main results

* `keeps_write` — a single write into one store
* `leads_getSeason` — a request writes nothing but the season of the source
* `getSeason_refresh` — what is found in each store afterwards
-/

namespace MediaShelf

variable {ω α : Type}

/-- Whether a call reads the season with the key or one of its entries. -/
def Tier.Call.Reads (key : SeasonKey) : Tier.Call → Prop
  | .getSeason other => other = key
  | .getEpisode other => other.season = key
  | _ => False

namespace MemoryStore

variable {key : SeasonKey} {season : Season} {start store next : MemoryStore}

/-! ### Stores that hold a season -/

/-- The season is found under its key, and no entry kept by itself says otherwise. -/
structure Settled (season : Season) (store : MemoryStore) : Prop where
  kept : store.seasons.lookup season.key = some season
  episodes : ∀ key episode, store.episodes.lookup key = some episode → key.season = season.key →
    season.numbered? key.special key.number = some episode

namespace Settled

theorem putSeason (season : Season) (store : MemoryStore) :
    (store.putSeason season).Settled season where
  kept := by rw [seasons_putSeason, if_pos rfl]
  episodes key episode hfound hkey := by
    rw [episodes_putSeason, if_pos hkey] at hfound
    cases hfound

/-- An entry of the season under its own keys. -/
theorem putEpisode (h : store.Settled season) (hformed : season.WellFormed) {episode : Episode}
    (hmem : episode ∈ season.episodes ++ season.specials) :
    (store.putEpisode episode).Settled season where
  kept := h.kept
  episodes key found hfound hkey := by
    rw [lookup_putEpisode] at hfound
    split at hfound
    · rename_i hown
      rw [← hfound]
      exact (hformed.numbered?_of_mem hmem hown).2
    · exact h.episodes key found hfound hkey

/-- Entries are found as the season has them, whether or not they are kept by themselves. -/
theorem findEpisode? (h : store.Settled season) (special : Bool) (n : UInt32) :
    store.findEpisode? ⟨season.key, special, n⟩ = season.numbered? special n := by
  rw [MemoryStore.findEpisode?, h.kept, Option.bind_some]
  cases hown : store.episodes.lookup ⟨season.key, special, n⟩ with
  | none => rfl
  | some episode => exact (h.episodes _ episode hown rfl).symm

end Settled

/-! ### Stores that differ in one season -/

/-- The stores hold the same, apart from the season with the key and its entries. -/
structure AgreesApart (key : SeasonKey) (start store : MemoryStore) : Prop where
  shows : store.shows = start.shows
  films : store.films = start.films
  searches : store.searches = start.searches
  seasons : ∀ other ≠ key, store.seasons.lookup other = start.seasons.lookup other
  episodes : ∀ other : EpisodeKey, other.season ≠ key →
    store.episodes.lookup other = start.episodes.lookup other

namespace AgreesApart

theorem refl (store : MemoryStore) : store.AgreesApart key store :=
  ⟨rfl, rfl, rfl, fun _ _ => rfl, fun _ _ => rfl⟩

theorem trans (h : start.AgreesApart key store) (h' : store.AgreesApart key next) :
    start.AgreesApart key next where
  shows := h'.shows.trans h.shows
  films := h'.films.trans h.films
  searches := h'.searches.trans h.searches
  seasons other hother := (h'.seasons other hother).trans (h.seasons other hother)
  episodes other hother := (h'.episodes other hother).trans (h.episodes other hother)

theorem putSeason (season : Season) (store : MemoryStore) :
    store.AgreesApart season.key (store.putSeason season) where
  shows := rfl
  films := rfl
  searches := rfl
  seasons other hother := by rw [seasons_putSeason, if_neg hother]
  episodes other hother := by rw [episodes_putSeason, if_neg hother]

theorem putEpisode (episode : Episode) (store : MemoryStore) :
    store.AgreesApart episode.seasonKey (store.putEpisode episode) where
  shows := rfl
  films := rfl
  searches := rfl
  seasons _ _ := rfl
  episodes other hother := by
    have hkeys : other ∉ episode.keys := by
      intro hmem
      obtain ⟨n, -, rfl⟩ := List.mem_map.mp hmem
      exact hother rfl
    rw [lookup_putEpisode, if_neg hkeys]

/-- All reads but those of the season and its entries give the same. -/
theorem ask (h : start.AgreesApart key store) {call : Tier.Call} (hread : call.isWrite = false)
    (hother : ¬ call.Reads key) : (tier.ask call store).1 = (tier.ask call start).1 := by
  cases call with
  | getShow other => rw [ask_getShow, ask_getShow, h.shows]
  | getSeason other => rw [ask_getSeason, ask_getSeason, h.seasons other hother]
  | getEpisode other =>
    rw [ask_getEpisode, ask_getEpisode, findEpisode?, findEpisode?, h.episodes other hother,
      h.seasons other.season hother]
  | getFilm other => rw [ask_getFilm, ask_getFilm, h.films]
  | searchMedia query => rw [ask_searchMedia, ask_searchMedia, h.searches]
  | _ => cases hread

end AgreesApart

end MemoryStore

/-! ### Writing a season into a shelf -/

namespace Shelf

/-- An effect on the stores of a shelf, in a world with other things. -/
def within (effect : StateM Shelf α) : StateM (Shelf × ω) α := fun (shelf, rest) =>
  let (value, shelf) := effect shelf
  (value, shelf, rest)

/-- An effect on the other things. -/
def outside (effect : StateM ω α) : StateM (Shelf × ω) α := fun (shelf, rest) =>
  let (value, rest) := effect rest
  (value, shelf, rest)

/-- The store at a place, with its calls noted. -/
def watched (refusals : Nat → Option StoreError) (place : Nat) :
    Tier (StateM (Watched (Shelf × ω))) :=
  ((tier refusals place).lift within).watched place

/-- A resolver over the stores of a shelf, any of whose calls may be refused, and any sources. -/
def resolver (refusals : Nat → Option StoreError) (size : Nat)
    (sources : List (Source (StateM ω))) : Resolver (StateM (Shelf × ω)) where
  tiers := (tiers refusals size).map (·.lift within)
  sources := sources.map (·.lift outside)

end Shelf

/-- The store at the place has accepted the season. -/
def Accepted (season : Season) (place : Nat) (calls : List Exchange) : Prop :=
  .store place (.cacheSeason season) (.done (.ok ())) ∈ calls

/-- While the season is written into the stores of a shelf, they differ at most in it from what they
were at first, and those that have accepted it are settled. -/
def Refreshing (first : Shelf) (season : Season) (watched : Watched (Shelf × ω)) : Prop :=
  ∀ i start, first.stores[i]? = some start → ∃ store, watched.world.1.stores[i]? = some store ∧
    start.AgreesApart season.key store ∧ (Accepted season i watched.calls → store.Settled season)

section Refresh

variable {first : Shelf} {season : Season} {refusals : Nat → Option StoreError}
  {sources : List (Source (StateM ω))}

/-- A write into one store, which may be refused. -/
theorem keeps_write {place : Nat} {call : Tier.Call} {put : MemoryStore → MemoryStore}
    (happart : ∀ store : MemoryStore, store.AgreesApart season.key (put store))
    (hsettles : ∀ store, call = .cacheSeason season ∨ store.Settled season →
      (put store).Settled season) :
    Keeps (Refreshing first season)
      (watch (.store place call <| .done ·) (Shelf.within (ω := ω)
        (Shelf.refusing refusals (Shelf.onStore place (MemoryStore.writing put)))))
      fun _ => True := by
  rintro ⟨⟨shelf, rest⟩, calls⟩ h
  refine ⟨trivial, fun i start hstart => ?_⟩
  obtain ⟨store, hstore, hagrees, hsettled⟩ := h i start hstart
  -- a call that is refused reaches no store, and is noted as not accepted
  cases hrefused : refusals shelf.calls with
  | some e =>
    simp only [watch, Shelf.within, Shelf.refusing, hrefused]
    refine ⟨store, hstore, hagrees, fun haccepted => hsettled ?_⟩
    simpa [Accepted] using haccepted
  | none =>
    simp only [watch, Shelf.within, Shelf.refusing, hrefused, Shelf.onStore, MemoryStore.writing]
    by_cases hplace : place = i
    · subst hplace
      have hlt : place < shelf.stores.length := (List.getElem?_eq_some_iff.mp hstore).1
      rw [hstore, Option.getD_some]
      refine ⟨put store, List.getElem?_set_self hlt, hagrees.trans (happart store), ?_⟩
      intro haccepted
      refine hsettles store ?_
      rcases List.mem_append.mp haccepted with hbefore | hnow
      · exact .inr (hsettled hbefore)
      · cases List.mem_singleton.mp hnow
        exact .inl rfl
    · refine ⟨store, by rw [List.getElem?_set_ne hplace, hstore], hagrees, fun haccepted => ?_⟩
      -- what another store accepts says nothing about this one
      refine hsettled ?_
      rcases List.mem_append.mp haccepted with hbefore | hnow
      · exact hbefore
      · simp [Ne.symm hplace] at hnow

/-- The writes of the season into one store. -/
theorem keeps_writeSeason (hformed : season.WellFormed) (place : Nat) :
    Keeps (Refreshing first season)
      (writeSeason (Shelf.watched (ω := ω) refusals place) season)
      fun _ => True := by
  refine .writeSeason ?_ fun episode hmem => ?_
  · exact keeps_write (.putSeason season) fun store _ => .putSeason season store
  · have hkey : episode.seasonKey = season.key := hformed.seasonKey_of_mem hmem
    have happart (store : MemoryStore) :
        store.AgreesApart season.key (store.putEpisode episode) := by
      rw [← hkey]
      exact .putEpisode episode store
    refine keeps_write happart fun store hsettled => ?_
    rcases hsettled with hcall | hsettled
    -- an entry alone settles nothing: it is written where the season was accepted
    · cases hcall
    · exact hsettled.putEpisode hformed hmem

/-- The writes of the season into all stores. -/
theorem keeps_populate (hformed : season.WellFormed) (size : Nat) :
    Keeps (Refreshing first season)
      (populate writeSeason season (Shelf.resolver refusals size sources).watched.tiers)
      fun _ => True := by
  refine .populate fun tier htier => ?_
  obtain ⟨place, lifted, hlifted, rfl⟩ := mem_watchedTiers htier
  obtain ⟨hplace, rfl⟩ := List.getElem?_eq_some_iff.mp hlifted
  have hkeeps : Keeps (Refreshing first season)
      (writeSeason (Shelf.watched (ω := ω) refusals place) season) fun _ => True :=
    keeps_writeSeason hformed place
  simpa [Shelf.resolver, Shelf.tiers, Shelf.watched] using hkeeps

/-- A call of a source. -/
theorem keeps_fetch {place : Nat} {source : Source (StateM ω)} {id : String} {n : UInt32} :
    Keeps (Refreshing first season)
      (((source.lift Shelf.outside).watched place).getSeason id n) fun _ => True := by
  rintro ⟨⟨shelf, rest⟩, calls⟩ h
  refine ⟨trivial, fun i start hstart => ?_⟩
  obtain ⟨store, hstore, hagrees, hsettled⟩ := h i start hstart
  refine ⟨store, hstore, hagrees, fun haccepted => hsettled ?_⟩
  rcases List.mem_append.mp haccepted with hbefore | hnow
  · exact hbefore
  · cases List.mem_singleton.mp hnow

/-- A request starts with nothing written. -/
theorem refreshing_start (shelf : Shelf) (hstores : shelf.stores = first.stores) (world : ω)
    {calls : List Exchange} (hcalls : ∀ i, ¬ Accepted season i calls) :
    Refreshing first season ⟨(shelf, world), calls⟩ := by
  intro i start hstart
  exact ⟨start, by rw [hstores, hstart], .refl start, fun haccepted => (hcalls i haccepted).elim⟩

/-- A store that does not have the season gives nothing for its key, refused or not. -/
theorem leads_readSeason {key : SeasonKey} (season : Season) (world : ω) (place : Nat)
    (hnone : ∀ store, first.stores[place]? = some store → store.seasons.lookup key = none) :
    Leads (· = ⟨(first, world), []⟩)
      ((Shelf.watched (ω := ω) refusals place).getSeason key)
      fun answer watched => (∀ value, answer ≠ .ok (some value)) ∧
        Refreshing first season watched := by
  rintro _ rfl
  have hcall : (Shelf.watched (ω := ω) refusals place).getSeason key =
      watch (.store place (.getSeason key) <| .season ·) (Shelf.within (Shelf.refusing refusals
        (Shelf.onStore place (MemoryStore.reading (·.seasons.lookup key))))) := rfl
  rw [hcall]
  cases hrefused : refusals first.calls with
  | some e =>
    simp only [watch, Shelf.within, Shelf.refusing, hrefused]
    exact ⟨by simp, refreshing_start _ rfl world (by simp [Accepted])⟩
  | none =>
    -- what was read is put back, also where the shelf ends before the place
    have hsame : first.stores.set place (first.stores[place]?.getD {}) = first.stores := by
      cases hstore : first.stores[place]? with
      | none => exact List.set_eq_of_length_le (List.getElem?_eq_none_iff.mp hstore)
      | some store =>
        obtain ⟨_, rfl⟩ := List.getElem?_eq_some_iff.mp hstore
        exact List.set_getElem_self _
    have hlookup : (first.stores[place]?.getD {}).seasons.lookup key = none := by
      cases hstore : first.stores[place]? with
      | none => rfl
      | some store => exact hnone store hstore
    simp only [watch, Shelf.within, Shelf.refusing, hrefused, Shelf.onStore, MemoryStore.reading,
      hlookup]
    exact ⟨by simp, refreshing_start _ hsame world (by simp [Accepted])⟩

/-- The first store is the only one that is read. -/
theorem leads_readFirst {key : SeasonKey} (season : Season) (world : ω)
    (hnone : ∀ store, first.stores.head? = some store → store.seasons.lookup key = none) :
    Leads (· = ⟨(first, world), []⟩)
      (readTiers (·.getSeason key) writeSeason
        ((Shelf.resolver refusals first.stores.length sources).watched.readable true))
      fun found watched => found = none ∧ Refreshing first season watched := by
  cases hsize : first.stores.length with
  | zero =>
    rintro _ rfl
    exact ⟨rfl, refreshing_start first rfl world (by simp [Accepted])⟩
  | succ size =>
    have hreadable : (Shelf.resolver refusals (size + 1) sources).watched.readable true =
        [Shelf.watched refusals 0] := by
      simp [Resolver.readable, Resolver.watched, Shelf.resolver, Shelf.tiers, watchedTiers,
        Shelf.watched, List.range_succ_eq_map]
    rw [hreadable]
    rw [List.head?_eq_getElem?] at hnone
    refine (leads_readSeason season world 0 hnone).bind fun answer => .of_and fun hanswer => ?_
    cases answer with
    | error _ => exact .pure fun _ h => ⟨rfl, h⟩
    | ok found =>
      cases found with
      | none => exact .pure fun _ h => ⟨rfl, h⟩
      | some value => exact absurd rfl (hanswer value)

/-- A request that passes over all stores but the first leads to a season from the source, and what
it writes into the stores is that season. -/
theorem leads_getSeason {key : SeasonKey} (hformed : season.WellFormed) (world : ω)
    (hnone : ∀ store, first.stores.head? = some store → store.seasons.lookup key = none) :
    Leads (· = ⟨(first, world), []⟩)
      ((Shelf.resolver refusals first.stores.length sources).watched.getSeason key true)
      fun answer watched => answer = .ok (some season) → Refreshing first season watched := by
  refine (leads_readFirst season world hnone).bind fun found => .of_and ?_
  rintro rfl
  dsimp only
  split
  · exact .pure fun _ _ hanswer => by cases hanswer
  · rename_i source hsource
    obtain ⟨place, lifted, hlifted, rfl⟩ := mem_watchedSources (List.mem_of_find?_eq_some hsource)
    obtain ⟨outside, -, rfl⟩ := List.mem_map.mp (List.mem_of_getElem? hlifted)
    refine keeps_fetch.leads_bind fun answer _ => ?_
    split
    · rename_i value
      by_cases hvalue : value = season
      · subst hvalue
        refine (keeps_populate hformed _).leads_bind fun _ _ => ?_
        exact .pure fun _ hdone _ => hdone
      · -- the request leads to another season
        intro _ _ hanswer
        cases hanswer
        exact absurd rfl hvalue
    · exact .pure fun _ hdone _ => hdone

end Refresh

/-- Over stores that hold anything and whose calls may be refused, the first of which does not have
the season, a request for it that passes over the other stores leads to the season of the source. In
every store that accepts the season, it and its entries are found from then on, whichever of their
own writes are refused; all other reads give what they gave. -/
theorem getSeason_refresh {refusals : Nat → Option StoreError} {sources : List (Source (StateM ω))}
    {shelf : Shelf} {world : ω} {key : SeasonKey} {season : Season}
    (hnone : ∀ store, shelf.stores.head? = some store → store.seasons.lookup key = none)
    (hkey : season.key = key) (hformed : season.WellFormed)
    (hgiven : ((Shelf.resolver refusals shelf.stores.length sources).watched.getSeason key true
      ⟨(shelf, world), []⟩).1 = .ok (some season)) :
    let after := ((Shelf.resolver refusals shelf.stores.length sources).watched.getSeason key true
      ⟨(shelf, world), []⟩).2
    ∀ place start, shelf.stores[place]? = some start →
      ∃ store, after.world.1.stores[place]? = some store ∧
        (Accepted season place after.calls →
          (MemoryStore.tier.ask (.getSeason key) store).1 = .season (.ok (some season)) ∧
          ∀ special n, (MemoryStore.tier.ask (.getEpisode ⟨key, special, n⟩) store).1 =
            .episode (.ok (season.numbered? special n))) ∧
        ∀ call : Tier.Call, call.isWrite = false → ¬ call.Reads key →
          (MemoryStore.tier.ask call store).1 = (MemoryStore.tier.ask call start).1 := by
  intro after place start hstart
  subst hkey
  have hrefreshing := leads_getSeason hformed world hnone _ rfl hgiven
  obtain ⟨store, hstore, hagrees, hsettled⟩ := hrefreshing place start hstart
  refine ⟨store, hstore, fun haccepted => ?_, fun call => hagrees.ask⟩
  have hsettled := hsettled haccepted
  refine ⟨?_, fun special n => ?_⟩
  · rw [MemoryStore.ask_getSeason, hsettled.kept]
  · rw [MemoryStore.ask_getEpisode, hsettled.findEpisode? special n]

/-- Two stores that know an episode 9, which the season has lost. Its entry is refused by the first
of them, which accepts the season itself. -/
theorem getSeason_refresh_shrunk :
    let entry (number : UInt32) (title : String) : Episode :=
      { sourceId := "t", showId := "a", seasonNumber := 1, episodeNumbers := [number], title }
    let season : Season :=
      { sourceId := "t", showId := "a", seasonNumber := 1, episodes := [entry 1 "Pilot"],
        specials := [] }
    let old : MemoryStore := ({} : MemoryStore).putEpisode (entry 9 "Finale")
    let shelf : Shelf := ⟨[old, old.putSeason { season with episodes := [] }], 0⟩
    let refusals : Nat → Option StoreError := fun n =>
      if n = 2 then some (.unavailable "full") else none
    let source : Source (StateM Unit) := .ofAnswers "t"
      { getShow := fun _ => .ok none
        getSeason := fun _ _ => .ok (some season)
        getFilm := fun _ => .ok none
        searchMedia := fun _ => .ok none }
    let run := (Shelf.resolver refusals shelf.stores.length [source]).watched.getSeason
      ⟨"t", "a", 1⟩ true ⟨(shelf, ()), []⟩
    .store 0 (.cacheEpisode (entry 1 "Pilot")) (.done (.error (.unavailable "full"))) ∈
      run.2.calls ∧
    ∃ store, run.2.world.1.stores[0]? = some store ∧
      (MemoryStore.tier.ask (.getEpisode ⟨⟨"t", "a", 1⟩, false, 1⟩) store).1 =
        .episode (.ok (some (entry 1 "Pilot"))) ∧
      (MemoryStore.tier.ask (.getEpisode ⟨⟨"t", "a", 1⟩, false, 9⟩) store).1 =
        .episode (.ok none) := by
  intro entry season old shelf refusals source run
  have hformed : season.WellFormed := by
    refine ⟨⟨?_, ?_, ?_⟩, ⟨?_, ?_, ?_⟩⟩ <;> simp [season, entry, Episode.seasonKey, Season.key]
  have hnone : ∀ store, shelf.stores.head? = some store →
      store.seasons.lookup ⟨"t", "a", 1⟩ = none := by
    rintro _ ⟨⟩
    rfl
  have hgiven : run.1 = .ok (some season) := rfl
  have hcalls : run.2.calls =
      [.store 0 (.getSeason ⟨"t", "a", 1⟩) (.season (.ok none)),
        .source 0 (.getSeason "a" 1) (.season (.ok (some season))),
        .store 0 (.cacheSeason season) (.done (.ok ())),
        .store 0 (.cacheEpisode (entry 1 "Pilot")) (.done (.error (.unavailable "full"))),
        .store 1 (.cacheSeason season) (.done (.ok ())),
        .store 1 (.cacheEpisode (entry 1 "Pilot")) (.done (.ok ()))] := rfl
  obtain ⟨store, hstore, hfound, -⟩ := getSeason_refresh hnone rfl hformed hgiven 0 old rfl
  have haccepted : Accepted season 0 run.2.calls := by simp [Accepted, hcalls]
  obtain ⟨-, hentries⟩ := hfound haccepted
  exact ⟨by simp [hcalls], store, hstore, hentries false 1, hentries false 9⟩

end MediaShelf
