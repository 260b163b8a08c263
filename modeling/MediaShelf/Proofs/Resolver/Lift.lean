import MediaShelf.Resolver

/-!
# Resolvers in a larger world

Stores and sources can be put to work in a larger world, such as one that also holds what is told to
the user. A resolver does not notice: a request in the larger world is the same request, carried
over as a whole, so it touches nothing else there.

## Main definitions

* `Resolver.lift` — a resolver with the effects of its stores and sources carried over

## Main results

* `Resolver.getShow_lift`, `getSeason_lift`, `getEpisode_lift`, `getFilm_lift`, `searchMedia_lift` —
  requests are carried over as a whole
-/

namespace MediaShelf

variable {m n : Type → Type} {α : Type}

/-- The resolver with its effects carried over into another monad. -/
def Resolver.lift (carry : {α : Type} → m α → n α) (resolver : Resolver m) : Resolver n where
  tiers := resolver.tiers.map (·.lift carry)
  sources := resolver.sources.map (·.lift carry)

theorem Resolver.readable_lift (carry : {α : Type} → m α → n α) (resolver : Resolver m)
    (refresh : Bool) :
    (resolver.lift carry).readable refresh = (resolver.readable refresh).map (·.lift carry) := by
  cases refresh with
  | false => rfl
  | true => exact List.map_take.symm

variable [Monad m] [Monad n] [MonadLiftT m n] [LawfulMonadLiftT m n]

/-! ### Reads and writes -/

section Stores

variable {read : Tier m → m (Except StoreError (Option α))}
  {readLifted : Tier n → n (Except StoreError (Option α))}
  {write : Tier m → α → m (Except StoreError Unit)}
  {writeLifted : Tier n → α → n (Except StoreError Unit)}

theorem populate_lift
    (hwrite : ∀ tier value, writeLifted (tier.lift liftM) value = liftM (write tier value))
    (value : α) (tiers : List (Tier m)) :
    populate writeLifted value (tiers.map (·.lift liftM)) =
      liftM (populate write value tiers) := by
  induction tiers with
  | nil => exact (liftM_pure ()).symm
  | cons tier tiers ih => simp only [List.map_cons, populate, hwrite, ih, liftM_bind]

theorem readTiersFrom_lift (hread : ∀ tier, readLifted (tier.lift liftM) = liftM (read tier))
    (hwrite : ∀ tier value, writeLifted (tier.lift liftM) value = liftM (write tier value))
    (passed tiers : List (Tier m)) :
    readTiersFrom readLifted writeLifted (passed.map (·.lift liftM)) (tiers.map (·.lift liftM)) =
      liftM (readTiersFrom read write passed tiers) := by
  -- a store that gave nothing joins those to be filled, so these vary
  induction tiers generalizing passed with
  | nil => exact (liftM_pure none).symm
  | cons tier tiers ih =>
    have hlater := ih (passed ++ [tier])
    rw [List.map_append] at hlater
    simp only [List.map_cons, readTiersFrom, hread, liftM_bind]
    refine congrArg _ (funext fun answer => ?_)
    match answer with
    | .ok (some value) => simp only [populate_lift hwrite, liftM_bind, liftM_pure]
    | .ok none => exact hlater
    | .error _ => exact hlater

theorem readTiers_lift (hread : ∀ tier, readLifted (tier.lift liftM) = liftM (read tier))
    (hwrite : ∀ tier value, writeLifted (tier.lift liftM) value = liftM (write tier value))
    (tiers : List (Tier m)) :
    readTiers readLifted writeLifted (tiers.map (·.lift liftM)) =
      liftM (readTiers read write tiers) :=
  readTiersFrom_lift hread hwrite [] tiers

end Stores

theorem writeEpisodes_lift (tier : Tier m) (episodes : List Episode) :
    writeEpisodes (tier.lift (n := n) liftM) episodes = liftM (writeEpisodes tier episodes) := by
  induction episodes with
  | nil => exact (liftM_pure _).symm
  | cons episode episodes ih =>
    simp only [writeEpisodes, liftM_bind]
    refine congrArg _ (funext fun answer => ?_)
    match answer with
    | .ok () => exact ih
    | .error e => exact (liftM_pure _).symm

theorem writeSeason_lift (tier : Tier m) (season : Season) :
    writeSeason (tier.lift (n := n) liftM) season = liftM (writeSeason tier season) := by
  simp only [writeSeason, liftM_bind]
  refine congrArg _ (funext fun answer => ?_)
  match answer with
  | .ok () => exact writeEpisodes_lift tier _
  | .error e => exact (liftM_pure _).symm

/-! ### Requests -/

namespace Resolver

variable (resolver : Resolver m) (refresh : Bool)

theorem resolve_lift {read : Tier m → m (Except StoreError (Option α))}
    {readLifted : Tier n → n (Except StoreError (Option α))}
    {fetch : Source m → m (Except SourceError (Option α))}
    {fetchLifted : Source n → n (Except SourceError (Option α))}
    {write : Tier m → α → m (Except StoreError Unit)}
    {writeLifted : Tier n → α → n (Except StoreError Unit)}
    (hread : ∀ tier, readLifted (tier.lift liftM) = liftM (read tier))
    (hfetch : ∀ source, fetchLifted (source.lift liftM) = liftM (fetch source))
    (hwrite : ∀ tier value, writeLifted (tier.lift liftM) value = liftM (write tier value))
    (sourceId : String) :
    (resolver.lift liftM).resolve sourceId refresh readLifted fetchLifted writeLifted =
      liftM (resolver.resolve sourceId refresh read fetch write) := by
  have hfind : (resolver.lift (n := n) liftM).sources.find? (·.sourceId == sourceId) =
      (resolver.sources.find? (·.sourceId == sourceId)).map (·.lift liftM) := List.find?_map ..
  simp only [resolve, readable_lift, readTiers_lift hread hwrite, liftM_bind]
  refine congrArg _ (funext fun found => ?_)
  cases found with
  | some value => exact (liftM_pure _).symm
  | none =>
    simp only [hfind]
    cases resolver.sources.find? (·.sourceId == sourceId) with
    | none => exact (liftM_pure _).symm
    | some source =>
      simp only [Option.map_some, hfetch, liftM_bind]
      refine congrArg _ (funext fun answer => ?_)
      match answer with
      | .ok (some value) =>
        simp only [liftM_bind, liftM_pure]
        rw [← populate_lift hwrite]
        rfl
      | .ok none => exact (liftM_pure _).symm
      | .error e => exact (liftM_pure _).symm

theorem getShow_lift (key : CatalogKey) :
    (resolver.lift (n := n) liftM).getShow key refresh = liftM (resolver.getShow key refresh) :=
  resolver.resolve_lift refresh (fun _ => rfl) (fun _ => rfl) (fun _ _ => rfl) key.sourceId

theorem getFilm_lift (key : CatalogKey) :
    (resolver.lift (n := n) liftM).getFilm key refresh = liftM (resolver.getFilm key refresh) :=
  resolver.resolve_lift refresh (fun _ => rfl) (fun _ => rfl) (fun _ _ => rfl) key.sourceId

theorem getSeason_lift (key : SeasonKey) :
    (resolver.lift (n := n) liftM).getSeason key refresh =
      liftM (resolver.getSeason key refresh) :=
  resolver.resolve_lift refresh (fun _ => rfl) (fun _ => rfl) writeSeason_lift key.sourceId

theorem getEpisode_lift (key : EpisodeKey) :
    (resolver.lift (n := n) liftM).getEpisode key refresh =
      liftM (resolver.getEpisode key refresh) := by
  have hstores : readTiers (·.getEpisode key) (·.cacheEpisode ·)
      ((resolver.lift (n := n) liftM).readable refresh) =
        liftM (readTiers (·.getEpisode key) (·.cacheEpisode ·) (resolver.readable refresh)) := by
    rw [readable_lift]
    exact readTiers_lift (fun _ => rfl) (fun _ _ => rfl) _
  simp only [getEpisode, hstores, liftM_bind]
  refine congrArg _ (funext fun found => ?_)
  cases found with
  | some episode => exact (liftM_pure _).symm
  | none => simp only [getSeason_lift, liftM_bind, liftM_pure]

theorem searchTier_lift (allowed : List String) (query : Query) (tier : Tier m) :
    searchTier allowed query (tier.lift (n := n) liftM) =
      liftM (searchTier allowed query tier) := by
  simp only [searchTier, Tier.lift, liftM_bind, liftM_pure]

theorem searchSources_lift (query : Query) (sources : List (Source m)) :
    searchSources query (sources.map (·.lift (n := n) liftM)) =
      liftM (searchSources query sources) := by
  induction sources with
  | nil => exact (liftM_pure _).symm
  | cons source sources ih =>
    simp only [List.map_cons, searchSources, liftM_bind]
    refine congrArg _ (funext fun answer => ?_)
    match answer with
    | .ok none => exact ih
    | .ok (some result) => exact (liftM_pure _).symm
    | .error e => exact (liftM_pure _).symm

theorem searchMedia_lift (query : Query) (allowed : List String) :
    (resolver.lift (n := n) liftM).searchMedia query allowed refresh =
      liftM (resolver.searchMedia query allowed refresh) := by
  have hstores : readTiers (searchTier allowed query)
      (fun tier result => tier.cacheSearch query result)
      ((resolver.lift (n := n) liftM).readable refresh) =
        liftM (readTiers (searchTier allowed query)
          (fun tier result => tier.cacheSearch query result) (resolver.readable refresh)) := by
    rw [readable_lift]
    exact readTiers_lift (searchTier_lift allowed query) (fun _ _ => rfl) _
  have hsources : (resolver.lift (n := n) liftM).sources.filter (allowed.contains ·.sourceId) =
      (resolver.sources.filter (allowed.contains ·.sourceId)).map (·.lift liftM) :=
    List.filter_map
  have hfill (result : SearchResult) :
      populate (fun tier result => tier.cacheSearch query result) result
        (resolver.lift (n := n) liftM).tiers =
      liftM (populate (fun tier result => tier.cacheSearch query result) result resolver.tiers) :=
    populate_lift (fun _ _ => rfl) result resolver.tiers
  simp only [searchMedia, hstores, hsources, searchSources_lift, liftM_bind]
  refine congrArg _ (funext fun found => ?_)
  cases found with
  | some result => exact (liftM_pure _).symm
  | none =>
    simp only [liftM_bind]
    refine congrArg _ (funext fun answer => ?_)
    match answer with
    | .ok (some result) =>
      simp only [hfill, liftM_bind, liftM_pure]
    | .ok none => exact (liftM_pure _).symm
    | .error e => exact (liftM_pure _).symm

end Resolver

end MediaShelf
