import MediaShelf.Proofs.Resolver.Keeps
import MediaShelf.Proofs.Resolver.Truth

/-!
# Stores that hold nothing but the truth

A resolver whose stores give nothing but what the sources would answer gives what the sources
answer. This is reduced here to what each store does by itself: under an invariant of the world its
look-ups are true, and it keeps the invariant when it is told what is true.

## Main definitions

* `Echoes` — an answer of a store that is true if it is a record
* `Tier.Truthful` — a store whose look-ups of records are true
* `Tier.TruthfulSearches` — a store whose searches are true, for queries of a certain kind

## Main results

* `Resolver.keeps_reply` — a request gives what the sources give
* `Resolver.keeps_searchMedia` — a search does, too
-/

namespace MediaShelf

variable {σ α : Type}

/-- If the answer of a store is a record, it is the true one. -/
def Echoes (truth : Except SourceError (Option α)) (answer : Except StoreError (Option α)) : Prop :=
  ∀ value, answer = .ok (some value) → truth = .ok (some value)

theorem echoes_error {truth : Except SourceError (Option α)} (e : StoreError) :
    Echoes truth (.error e) :=
  fun _ h => nomatch h

/-- Under the invariant the store gives nothing but what the sources give, and it keeps the
invariant if it is told nothing else. -/
structure Tier.Truthful (catalogs : List (String × Source.Answers)) (inv : σ → Prop)
    (tier : Tier (StateM σ)) : Prop where
  getShow : ∀ key, Keeps inv (tier.getShow key) (Echoes (trueShow catalogs key))
  getSeason : ∀ key, Keeps inv (tier.getSeason key) (Echoes (trueSeason catalogs key))
  getEpisode : ∀ key, Keeps inv (tier.getEpisode key) (Echoes (trueEpisode catalogs key))
  getFilm : ∀ key, Keeps inv (tier.getFilm key) (Echoes (trueFilm catalogs key))
  cacheShow : ∀ record, trueShow catalogs record.key = .ok (some record) →
    Keeps inv (tier.cacheShow record) fun _ => True
  cacheSeason : ∀ season, trueSeason catalogs season.key = .ok (some season) →
    Keeps inv (tier.cacheSeason season) fun _ => True
  cacheEpisode : ∀ episode, (∀ key ∈ episode.keys, trueEpisode catalogs key = .ok (some episode)) →
    Keeps inv (tier.cacheEpisode episode) fun _ => True
  cacheFilm : ∀ film, trueFilm catalogs film.key = .ok (some film) →
    Keeps inv (tier.cacheFilm film) fun _ => True

/-- Under the invariant the searches of the store for certain queries are true as far as results
from the allowed sources go, and it keeps the invariant if it is told what is true of them. -/
structure Tier.TruthfulSearches (catalogs : List (String × Source.Answers)) (allowed : List String)
    (kind : Query → Prop) (inv : σ → Prop) (tier : Tier (StateM σ)) : Prop where
  searchMedia : ∀ query, kind query →
    Keeps inv (Resolver.searchTier allowed query tier) (Echoes (trueSearch catalogs allowed query))
  cacheSearch : ∀ query, kind query → ∀ result,
    trueSearch catalogs allowed query = .ok (some result) →
      Keeps inv (tier.cacheSearch query result) fun _ => True

namespace Resolver

variable {catalogs : List (String × Source.Answers)} {inv : σ → Prop}
  {tiers : List (Tier (StateM σ))} {refresh : Bool}

/-! ### Records -/

/-- A request whose records the stores know only from the sources gives what the sources give. -/
theorem keeps_resolve {sourceId : String} {ask : Source.Answers → Except SourceError (Option α)}
    {fetch : Source (StateM σ) → StateM σ (Except SourceError (Option α))}
    (hfetch : ∀ catalog : String × Source.Answers,
      fetch (.ofAnswers catalog.1 catalog.2) = pure (ask catalog.2))
    {read : Tier (StateM σ) → StateM σ (Except StoreError (Option α))}
    {write : Tier (StateM σ) → α → StateM σ (Except StoreError Unit)}
    (hread : ∀ tier ∈ tiers, Keeps inv (read tier) (Echoes (askSource catalogs sourceId ask)))
    (hwrite : ∀ tier ∈ tiers, ∀ value, askSource catalogs sourceId ask = .ok (some value) →
      Keeps inv (write tier value) fun _ => True) :
    Keeps inv (Resolver.resolve ⟨tiers, sourcesOf catalogs⟩ sourceId refresh read fetch write)
      (· = askSource catalogs sourceId ask) := by
  -- the source that is asked is the one whose answer is the truth
  refine Keeps.resolve hread hwrite (fun source hsource => ?_) fun hsource => ?_
  · rw [find?_sourcesOf] at hsource
    obtain ⟨catalog, hfind, rfl⟩ := Option.map_eq_some_iff.mp hsource
    rw [hfetch]
    exact .pure (by simp [askSource, hfind])
  · rw [find?_sourcesOf] at hsource
    have hfind := Option.map_eq_none_iff.mp hsource
    simp [askSource, hfind]

section Records

variable (hfaithful : ∀ catalog ∈ catalogs, catalog.2.Faithful catalog.1)
  (htiers : ∀ tier ∈ tiers, tier.Truthful catalogs inv)

include hfaithful htiers

theorem keeps_getShow (key : CatalogKey) :
    Keeps inv (Resolver.getShow ⟨tiers, sourcesOf catalogs⟩ key refresh)
      (· = trueShow catalogs key) := by
  refine keeps_resolve (fun _ => rfl) (fun tier htier => (htiers tier htier).getShow key) ?_
  -- it is kept under its own key, which is the one it was asked for by
  intro tier htier record hrecord
  apply (htiers tier htier).cacheShow
  rw [key_of_trueShow hfaithful hrecord]
  exact hrecord

theorem keeps_getFilm (key : CatalogKey) :
    Keeps inv (Resolver.getFilm ⟨tiers, sourcesOf catalogs⟩ key refresh)
      (· = trueFilm catalogs key) := by
  refine keeps_resolve (fun _ => rfl) (fun tier htier => (htiers tier htier).getFilm key) ?_
  intro tier htier film hfilm
  apply (htiers tier htier).cacheFilm
  rw [key_of_trueFilm hfaithful hfilm]
  exact hfilm

theorem keeps_getSeason (key : SeasonKey) :
    Keeps inv (Resolver.getSeason ⟨tiers, sourcesOf catalogs⟩ key refresh)
      (· = trueSeason catalogs key) := by
  refine keeps_resolve (fun _ => rfl) (fun tier htier => (htiers tier htier).getSeason key) ?_
  intro tier htier season hseason
  apply Keeps.writeSeason
  · apply (htiers tier htier).cacheSeason
    rw [(wellFormed_of_trueSeason hfaithful hseason).1]
    exact hseason
  · intro episode hmem
    apply (htiers tier htier).cacheEpisode
    exact fun own hown => trueEpisode_of_mem hfaithful hseason hmem hown

theorem keeps_getEpisode (key : EpisodeKey) :
    Keeps inv (Resolver.getEpisode ⟨tiers, sourcesOf catalogs⟩ key refresh)
      (· = trueEpisode catalogs key) := by
  have hread : Keeps inv
      (readTiers (·.getEpisode key) (·.cacheEpisode ·)
        (Resolver.readable ⟨tiers, sourcesOf catalogs⟩ refresh))
      fun found => ∀ episode, found = some episode →
        trueEpisode catalogs key = .ok (some episode) := by
    refine Keeps.readTiers (fun tier htier => ?_) fun tier htier episode hepisode => ?_
    · exact (htiers tier (Keeps.mem_tiers htier)).getEpisode key
    · apply (htiers tier (Keeps.mem_tiers htier)).cacheEpisode
      exact fun own hown => trueEpisode_of_trueEpisode hfaithful hepisode hown
  refine hread.bind fun found hfound => ?_
  match found with
  | some episode => exact .pure (hfound episode rfl).symm
  | none =>
    -- no store has it by itself, so its season decides
    refine (keeps_getSeason hfaithful htiers key.season).bind fun season hseason => .pure ?_
    rw [hseason, trueEpisode]

/-- One request gives what the sources give and leaves nothing else in the stores. -/
theorem keeps_reply (lookup : Lookup) :
    Keeps inv (Resolver.reply ⟨tiers, sourcesOf catalogs⟩ lookup refresh)
      (· = trueReply catalogs lookup) := by
  cases lookup with
  | «show» key =>
    exact (keeps_getShow hfaithful htiers key).bind fun _ h => .pure (by rw [h, trueReply])
  | season key =>
    exact (keeps_getSeason hfaithful htiers key).bind fun _ h => .pure (by rw [h, trueReply])
  | episode key =>
    exact (keeps_getEpisode hfaithful htiers key).bind fun _ h => .pure (by rw [h, trueReply])
  | film key =>
    exact (keeps_getFilm hfaithful htiers key).bind fun _ h => .pure (by rw [h, trueReply])

end Records

/-! ### Searches -/

/-- A search gives what the allowed sources give, if the stores know its kind of queries only from
them. -/
theorem keeps_searchMedia {allowed : List String} {kind : Query → Prop} {query : Query}
    (htiers : ∀ tier ∈ tiers, tier.TruthfulSearches catalogs allowed kind inv)
    (hquery : kind query) :
    Keeps inv (Resolver.searchMedia ⟨tiers, sourcesOf catalogs⟩ query allowed refresh)
      (· = trueSearch catalogs allowed query) := by
  have hread : Keeps inv
      (readTiers (searchTier allowed query) (fun tier result => tier.cacheSearch query result)
        (Resolver.readable ⟨tiers, sourcesOf catalogs⟩ refresh))
      fun found => ∀ result, found = some result →
        trueSearch catalogs allowed query = .ok (some result) := by
    refine Keeps.readTiers (fun tier htier => ?_) fun tier htier => ?_
    · exact (htiers tier (Keeps.mem_tiers htier)).searchMedia query hquery
    · exact (htiers tier (Keeps.mem_tiers htier)).cacheSearch query hquery
  refine hread.bind fun found hfound => ?_
  match found with
  | some result => exact .pure (hfound result rfl).symm
  | none =>
    dsimp only
    rw [searchSources_sourcesOf, pure_bind]
    -- only a result is written into the stores
    split
    · rename_i result hresult
      refine (Keeps.populate fun tier htier => ?_).bind fun _ _ => .pure hresult.symm
      exact (htiers tier htier).cacheSearch query hquery result hresult
    · exact .pure rfl

end Resolver

end MediaShelf
