import MediaShelf.Proofs.Resolver.Journal

/-!
# Reading through stores

Which calls a resolver makes, in which order, whatever its stores and sources give back. Stores are
read in order up to the first that has the record, and that record is written into the stores before
it. Only if no store has it is a source called, one time, and only a record is then written into
all stores. In each store the writes of a record stop at the first that fails, which stops nothing
in other stores.

## Main definitions

* `Kind` — the calls that records of one kind take
* `Attempts`, `Fills` — the writes of a record into one store, and into several
* `Misses`, `Reads` — reads that give nothing, and reads up to a record
* `ReadThrough` — all calls of a request, with its answer

## Main results

* `traces_populate`, `traces_readTiersFrom`, `traces_resolve` — what each part of a request notes
* `Resolver.reads_through` — requests for shows, seasons and films
-/

namespace MediaShelf

variable {σ α : Type}

/-- The calls that records of one kind take, for one key. -/
structure Kind (α : Type) where
  /-- The id of the source that is asked. -/
  sourceId : String
  /-- How a store is asked for the record, and what it may give. -/
  get : Tier.Call
  given : Except StoreError (Option α) → Tier.Answer
  /-- How the source is asked for the record, and what it may give. -/
  fetch : Source.Call
  fetched : Except SourceError (Option α) → Source.Answer
  /-- The writes that put a record into a store. -/
  writes : α → List Tier.Call

namespace Kind

/-- The show with the key. -/
def «show» (key : CatalogKey) : Kind Show where
  sourceId := key.sourceId
  get := .getShow key
  given := .show
  fetch := .getShow key.id
  fetched := .show
  writes record := [.cacheShow record]

/-- The season with the key, whose entries are written after it. -/
def season (key : SeasonKey) : Kind Season where
  sourceId := key.sourceId
  get := .getSeason key
  given := .season
  fetch := .getSeason key.showId key.season
  fetched := .season
  writes season := .cacheSeason season :: (season.episodes ++ season.specials).map .cacheEpisode

/-- The film with the key. -/
def film (key : CatalogKey) : Kind Film where
  sourceId := key.sourceId
  get := .getFilm key
  given := .film
  fetch := .getFilm key.id
  fetched := .film
  writes film := [.cacheFilm film]

end Kind

/-! ### What the journal shows -/

/-- Writes into the store at a place, up to the first that fails. -/
inductive Attempts (place : Nat) : List Tier.Call → List Exchange → Prop
  | nil : Attempts place [] []
  | failed (call : Tier.Call) (calls : List Tier.Call) (e : StoreError) :
      Attempts place (call :: calls) [.store place call (.done (.error e))]
  | made (call : Tier.Call) {calls : List Tier.Call} {events : List Exchange} :
      Attempts place calls events →
      Attempts place (call :: calls) (.store place call (.done (.ok ())) :: events)

/-- The same writes into the stores at places in a row. -/
inductive Fills (writes : List Tier.Call) : List Nat → List Exchange → Prop
  | nil : Fills writes [] []
  | cons {place : Nat} {places : List Nat} {events more : List Exchange} :
      Attempts place writes events → Fills writes places more →
      Fills writes (place :: places) (events ++ more)

/-- Reads of the stores at places in a row, none of which gives a record. -/
inductive Misses (kind : Kind α) : List Nat → List Exchange → Prop
  | nil : Misses kind [] []
  | cons {place : Nat} {places : List Nat} {answer : Except StoreError (Option α)}
      {events : List Exchange} :
      (∀ value, answer ≠ .ok (some value)) → Misses kind places events →
      Misses kind (place :: places) (.store place kind.get (kind.given answer) :: events)

/-- Reads of the stores at places in a row up to the first record, if any has one. It is written
into the stores that were read before and into those `passed` already. -/
inductive Reads (kind : Kind α) (passed places : List Nat) : Option α → List Exchange → Prop
  | missed {misses : List Exchange} :
      Misses kind places misses → Reads kind passed places none misses
  | found {before after : List Nat} {place : Nat} {value : α} {misses written : List Exchange} :
      places = before ++ place :: after → Misses kind before misses →
      Fills (kind.writes value) (passed ++ before) written →
      Reads kind passed places (some value)
        (misses ++ .store place kind.get (kind.given (.ok (some value))) :: written)

/-- The calls of a request with its answer, where only the first `readable` of the stores are read
and the sources have the ids. -/
inductive ReadThrough (kind : Kind α) (stores readable : Nat) (ids : List String) :
    Except SourceError (Option α) → List Exchange → Prop
  /-- A store is the first to have the record. -/
  | stored {place : Nat} {value : α} {misses written : List Exchange} :
      place < readable → Misses kind (List.range place) misses →
      Fills (kind.writes value) (List.range place) written →
      ReadThrough kind stores readable ids (.ok (some value))
        (misses ++ .store place kind.get (kind.given (.ok (some value))) :: written)
  /-- There is no source with the id. -/
  | sourceless {misses : List Exchange} :
      Misses kind (List.range readable) misses → kind.sourceId ∉ ids →
      ReadThrough kind stores readable ids (.ok none) misses
  /-- The first source with the id has the record. -/
  | fetched {place : Nat} {value : α} {misses written : List Exchange} :
      Misses kind (List.range readable) misses → ids.idxOf? kind.sourceId = some place →
      Fills (kind.writes value) (List.range stores) written →
      ReadThrough kind stores readable ids (.ok (some value))
        (misses ++ .source place kind.fetch (kind.fetched (.ok (some value))) :: written)
  /-- The first source with the id has no record, or fails. -/
  | unknown {place : Nat} {answer : Except SourceError (Option α)} {misses : List Exchange} :
      Misses kind (List.range readable) misses → ids.idxOf? kind.sourceId = some place →
      (∀ value, answer ≠ .ok (some value)) →
      ReadThrough kind stores readable ids answer
        (misses ++ [.source place kind.fetch (kind.fetched answer)])

/-! ### Writes -/

theorem traces_writeEpisodes (place : Nat) (tier : Tier (StateM σ)) (episodes : List Episode) :
    Traces (writeEpisodes (tier.watched place) episodes) (writeEpisodes tier episodes)
      fun _ made => Attempts place (episodes.map .cacheEpisode) made := by
  induction episodes with
  | nil => exact .pure .nil
  | cons episode episodes ih =>
    refine (traces_watch (.store place (.cacheEpisode episode) <| .done ·) _).bind ?_
    rintro answer _ rfl
    -- the writes end where the store fails
    match answer with
    | .error e => exact .pure (.failed _ _ e)
    | .ok () => exact ih.mono fun _ _ hmade => .made _ hmade

theorem traces_writeSeason (key : SeasonKey) (place : Nat) (tier : Tier (StateM σ))
    (season : Season) :
    Traces (writeSeason (tier.watched place) season) (writeSeason tier season)
      fun _ made => Attempts place ((Kind.season key).writes season) made := by
  refine (traces_watch (.store place (.cacheSeason season) <| .done ·) _).bind ?_
  rintro answer _ rfl
  match answer with
  | .error e => exact .pure (.failed _ _ e)
  | .ok () => exact (traces_writeEpisodes place tier _).mono fun _ _ hmade => .made _ hmade

/-- A single write. -/
theorem traces_write (place : Nat) (call : Tier.Call)
    (effect : StateM σ (Except StoreError Unit)) :
    Traces (watch (.store place call <| .done ·) effect) effect
      fun _ made => Attempts place [call] made := by
  refine (traces_watch _ effect).mono ?_
  rintro answer _ rfl
  match answer with
  | .error e => exact .failed call [] e
  | .ok () => exact .made call .nil

/-! ### Parts of a request -/

section Request

variable {kind : Kind α}
  {watchedRead : Tier (StateM (Watched σ)) → StateM (Watched σ) (Except StoreError (Option α))}
  {read : Tier (StateM σ) → StateM σ (Except StoreError (Option α))}
  {watchedFetch : Source (StateM (Watched σ)) → StateM (Watched σ) (Except SourceError (Option α))}
  {fetch : Source (StateM σ) → StateM σ (Except SourceError (Option α))}
  {watchedWrite : Tier (StateM (Watched σ)) → α → StateM (Watched σ) (Except StoreError Unit)}
  {write : Tier (StateM σ) → α → StateM σ (Except StoreError Unit)}

theorem traces_populate {value : α} {writes : List Tier.Call}
    (placed : List (Tier (StateM σ) × Nat))
    (hwrite : ∀ place tier, Traces (watchedWrite (tier.watched place) value) (write tier value)
      fun _ made => Attempts place writes made) :
    Traces (populate watchedWrite value (watchedTiers placed))
      (populate write value (placed.map (·.1)))
      fun _ made => Fills writes (placed.map (·.2)) made := by
  induction placed with
  | nil => exact .pure .nil
  | cons first placed ih =>
    -- the next store is written whatever this one answers
    refine (hwrite first.2 first.1).bind fun _ front hfront => ?_
    exact ih.mono fun _ back hback => .cons hfront hback

/-- The stores that are all written stand at all places. -/
theorem traces_populate_all {value : α} {writes : List Tier.Call} (resolver : Resolver (StateM σ))
    (hwrite : ∀ place tier, Traces (watchedWrite (tier.watched place) value) (write tier value)
      fun _ made => Attempts place writes made) :
    Traces (populate watchedWrite value resolver.watched.tiers)
      (populate write value resolver.tiers)
      fun _ made => Fills writes (List.range resolver.tiers.length) made := by
  have hfills := traces_populate resolver.tiers.zipIdx hwrite
  rw [List.zipIdx_map_fst, List.zipIdx_map_snd, ← List.range_eq_range'] at hfills
  exact hfills

/-- A read that gives nothing stands before the others. -/
theorem Reads.skip {passed places : List Nat} {place : Nat} {found : Option α}
    {answer : Except StoreError (Option α)} {events : List Exchange}
    (hanswer : ∀ value, answer ≠ .ok (some value))
    (h : Reads kind (passed ++ [place]) places found events) :
    Reads kind passed (place :: places) found
      (.store place kind.get (kind.given answer) :: events) := by
  cases h with
  | missed hmisses => exact .missed (.cons hanswer hmisses)
  | found hplaces hmisses hwritten =>
    rw [List.append_assoc] at hwritten
    have hfound := Reads.found (congrArg (place :: ·) hplaces) (.cons hanswer hmisses) hwritten
    exact hfound

theorem traces_readTiersFrom
    (hread : ∀ place tier, Traces (watchedRead (tier.watched place)) (read tier)
      fun answer made => made = [.store place kind.get (kind.given answer)])
    (hwrite : ∀ place tier value, Traces (watchedWrite (tier.watched place) value)
      (write tier value) fun _ made => Attempts place (kind.writes value) made)
    (passed placed : List (Tier (StateM σ) × Nat)) :
    Traces (readTiersFrom watchedRead watchedWrite (watchedTiers passed) (watchedTiers placed))
      (readTiersFrom read write (passed.map (·.1)) (placed.map (·.1)))
      (Reads kind (passed.map (·.2)) (placed.map (·.2))) := by
  -- a store that gave nothing joins those to be filled, so these vary
  induction placed generalizing passed with
  | nil => exact .pure (.missed .nil)
  | cons first placed ih =>
    refine (hread first.2 first.1).bind ?_
    rintro answer _ rfl
    have hlater := ih (passed ++ [first])
    simp only [watchedTiers, List.map_append, List.map_cons, List.map_nil] at hlater
    match answer with
    | .error e =>
      have hnone : ∀ value : α, Except.error e ≠ .ok (some value) := by simp
      exact hlater.mono fun _ _ hreads => hreads.skip hnone
    | .ok none =>
      have hnone : ∀ value : α, (.ok none : Except StoreError _) ≠ .ok (some value) := by simp
      exact hlater.mono fun _ _ hreads => hreads.skip hnone
    | .ok (some value) =>
      -- only the stores that were passed take the record; those behind are not even read
      refine (traces_populate passed fun place tier => hwrite place tier value).bind ?_
      intro _ written hwritten
      rw [← List.append_nil (passed.map _)] at hwritten
      have hfound := Reads.found (rfl : (first :: placed).map (·.2) = [] ++ _) .nil hwritten
      refine .pure ?_
      rw [List.append_nil]
      exact hfound

/-- The stores that are read stand at the first places. -/
theorem exists_placed (resolver : Resolver (StateM σ)) (refresh : Bool) :
    ∃ placed : List (Tier (StateM σ) × Nat),
      watchedTiers placed = resolver.watched.readable refresh ∧
      placed.map (·.1) = resolver.readable refresh ∧
      placed.map (·.2) = List.range (if refresh then min 1 resolver.tiers.length
        else resolver.tiers.length) := by
  cases refresh with
  | true =>
    refine ⟨resolver.tiers.zipIdx.take 1, List.map_take, ?_, ?_⟩
    · rw [List.map_take, List.zipIdx_map_fst]
      rfl
    · rw [List.map_take, List.zipIdx_map_snd, ← List.range_eq_range', List.take_range]
      rfl
  | false =>
    refine ⟨resolver.tiers.zipIdx, rfl, List.zipIdx_map_fst .., ?_⟩
    rw [List.zipIdx_map_snd, ← List.range_eq_range']
    rfl

/-- The places of the stores that are read. -/
theorem traces_readTiers (resolver : Resolver (StateM σ)) (refresh : Bool)
    (hread : ∀ place tier, Traces (watchedRead (tier.watched place)) (read tier)
      fun answer made => made = [.store place kind.get (kind.given answer)])
    (hwrite : ∀ place tier value, Traces (watchedWrite (tier.watched place) value)
      (write tier value) fun _ made => Attempts place (kind.writes value) made) :
    Traces (readTiers watchedRead watchedWrite (resolver.watched.readable refresh))
      (readTiers read write (resolver.readable refresh))
      (Reads kind [] (List.range (if refresh then min 1 resolver.tiers.length
        else resolver.tiers.length))) := by
  obtain ⟨placed, hwatched, htiers, hplaces⟩ := exists_placed resolver refresh
  rw [← hwatched, ← htiers, ← hplaces]
  exact traces_readTiersFrom hread hwrite [] placed

/-- The first source with an id is watched at its place. -/
theorem find?_watchedSources {sources : List (Source (StateM σ))} {sourceId : String}
    {source : Source (StateM σ)} (h : sources.find? (·.sourceId == sourceId) = some source) :
    ∃ place, (sources.map (·.sourceId)).idxOf? sourceId = some place ∧
      (watchedSources sources.zipIdx).find? (·.sourceId == sourceId) =
        some (source.watched place) := by
  obtain ⟨hid, place, hplace, rfl, hbefore⟩ := List.find?_eq_some_iff_getElem.mp h
  refine ⟨place, List.idxOf?_eq_some_iff.mpr ⟨by simpa using hplace, by simpa using hid, ?_⟩,
    List.find?_eq_some_iff_getElem.mpr ⟨hid, place, by simpa [watchedSources] using hplace, ?_, ?_⟩⟩
  · intro earlier hearlier
    simpa using hbefore earlier hearlier
  · simp [watchedSources]
  · intro earlier hearlier
    simpa [watchedSources, Source.watched] using hbefore earlier hearlier

/-- Where no source has an id, none that is watched has it. -/
theorem find?_watchedSources_none {sources : List (Source (StateM σ))} {sourceId : String}
    (h : sources.find? (·.sourceId == sourceId) = none) :
    sourceId ∉ sources.map (·.sourceId) ∧
      (watchedSources sources.zipIdx).find? (·.sourceId == sourceId) = none := by
  have hother : ∀ source ∈ sources, source.sourceId ≠ sourceId := by
    simpa using h
  refine ⟨by simpa using hother, List.find?_eq_none.mpr fun watched hwatched => ?_⟩
  obtain ⟨place, source, hsource, rfl⟩ := mem_watchedSources hwatched
  simpa [Source.watched] using hother source (List.mem_of_getElem? hsource)

/-- The places before a place are all the smaller ones. -/
theorem range_eq_append_cons {n place : Nat} {before after : List Nat}
    (h : List.range n = before ++ place :: after) : place < n ∧ before = List.range place := by
  rw [List.range_eq_range'] at h
  obtain ⟨size, -, rfl, hrest⟩ := List.range'_eq_append_iff.mp h
  obtain ⟨hplace, hlt, -⟩ := List.range'_eq_cons_iff.mp hrest.symm
  obtain rfl : size = place := by omega
  exact ⟨by omega, List.range_eq_range'.symm⟩

variable (kind) in
/-- A request reads stores, calls a source if none has the record, and fills stores. -/
theorem traces_resolve (resolver : Resolver (StateM σ)) (refresh : Bool)
    (hread : ∀ place tier, Traces (watchedRead (tier.watched place)) (read tier)
      fun answer made => made = [.store place kind.get (kind.given answer)])
    (hfetch : ∀ place source, Traces (watchedFetch (source.watched place)) (fetch source)
      fun answer made => made = [.source place kind.fetch (kind.fetched answer)])
    (hwrite : ∀ place tier value, Traces (watchedWrite (tier.watched place) value)
      (write tier value) fun _ made => Attempts place (kind.writes value) made) :
    Traces (resolver.watched.resolve kind.sourceId refresh watchedRead watchedFetch watchedWrite)
      (resolver.resolve kind.sourceId refresh read fetch write)
      (ReadThrough kind resolver.tiers.length
        (if refresh then min 1 resolver.tiers.length else resolver.tiers.length)
        resolver.sourceIds) := by
  have hreads := traces_readTiers resolver refresh hread hwrite
  generalize (if refresh then min 1 resolver.tiers.length else resolver.tiers.length) = readable
    at hreads ⊢
  refine hreads.bind fun found front hfront => ?_
  cases hfront with
  | found hplaces hmisses hwritten =>
    obtain ⟨hplace, rfl⟩ := range_eq_append_cons hplaces
    refine .pure ?_
    rw [List.append_nil]
    exact .stored hplace hmisses hwritten
  | missed hmisses =>
    cases hfind : resolver.sources.find? (·.sourceId == kind.sourceId) with
    | none =>
      obtain ⟨hid, hwatched⟩ := find?_watchedSources_none hfind
      simp only [Resolver.watched, hwatched]
      refine .pure ?_
      rw [List.append_nil]
      exact .sourceless hmisses hid
    | some source =>
      obtain ⟨place, hid, hwatched⟩ := find?_watchedSources hfind
      simp only [Resolver.watched, hwatched]
      refine (hfetch place source).bind ?_
      rintro answer _ rfl
      match answer with
      | .error e => exact .pure (.unknown hmisses hid (by simp))
      | .ok none => exact .pure (.unknown hmisses hid (by simp))
      | .ok (some value) =>
        have hfills := traces_populate_all resolver fun place tier => hwrite place tier value
        refine hfills.bind fun _ written hwritten => .pure ?_
        rw [List.append_nil]
        exact .fetched hmisses hid hwritten

end Request

/-- Whatever its stores and sources give back, a resolver reads its stores in order, only the first
one with `refresh`, up to a record. That record is written into the stores before. If there is none,
the first source with the id is called once, and a record that it gives is written into all
stores. -/
theorem Resolver.reads_through (resolver : Resolver (StateM σ)) (refresh : Bool) :
    let stores := resolver.tiers.length
    let readable := if refresh then min 1 stores else stores
    (∀ key, Traces (resolver.watched.getShow key refresh) (resolver.getShow key refresh)
      (ReadThrough (.show key) stores readable resolver.sourceIds)) ∧
    (∀ key, Traces (resolver.watched.getSeason key refresh) (resolver.getSeason key refresh)
      (ReadThrough (.season key) stores readable resolver.sourceIds)) ∧
    (∀ key, Traces (resolver.watched.getFilm key refresh) (resolver.getFilm key refresh)
      (ReadThrough (.film key) stores readable resolver.sourceIds)) := by
  refine ⟨fun key => ?_, fun key => ?_, fun key => ?_⟩
  · exact traces_resolve (.show key) resolver refresh
      (fun place _ => traces_watch (.store place (.getShow key) <| .show ·) _)
      (fun place _ => traces_watch (.source place (.getShow key.id) <| .show ·) _)
      fun place _ record => traces_write place (.cacheShow record) _
  · exact traces_resolve (.season key) resolver refresh
      (fun place _ => traces_watch (.store place (.getSeason key) <| .season ·) _)
      (fun place _ =>
        traces_watch (.source place (.getSeason key.showId key.season) <| .season ·) _)
      fun place tier season => traces_writeSeason key place tier season
  · exact traces_resolve (.film key) resolver refresh
      (fun place _ => traces_watch (.store place (.getFilm key) <| .film ·) _)
      (fun place _ => traces_watch (.source place (.getFilm key.id) <| .film ·) _)
      fun place _ film => traces_write place (.cacheFilm film) _

end MediaShelf
