import Mathlib.Data.List.Basic
import MediaShelf.Proofs.Resolver.Keeps
import MediaShelf.Proofs.Resolver.ReadThrough

/-!
# Searching through stores and sources

Which calls a search makes, in which order, whatever its stores and sources give back. A store may
hold what a search of another directory led to. Such a result, from a source that is not allowed
here, counts as none, and so does a failure: the next store is read. The allowed sources are called
only if no store has a result of one of them, each in its turn, up to the first that gives a result
or fails. A result is written into the stores that were passed, under the query.

## Main definitions

* `Source.Signs` — the results of a source carry its id
* `Overlooks`, `Finds` — reads that give no allowed result, and reads up to one
* `Asks` — calls of sources up to a result or a failure
* `SearchThrough` — all calls of a search, with its answer
* `IsAllowed` — an answer that is no result of another source

## Main results

* `traces_readTiersFrom_search`, `traces_searchSources`, `traces_searchMedia` — what a search and
  each of its parts notes
* `keeps_searchMedia_isAllowed` — results come from allowed sources
* `Resolver.searches_through` — searches for any query, among any allowed sources
-/

namespace MediaShelf

variable {σ : Type} {query : Query} {allowed : List String}

/-- The results that the source gives carry its id. -/
def Source.Signs (source : Source (StateM σ)) : Prop :=
  ∀ query world result, (source.searchMedia query world).1 = .ok (some result) →
    result.sourceId = source.sourceId

/-! ### What the journal shows -/

section Journal

variable (query : Query) (allowed : List String)

/-- Searches in the stores at places in a row, none of which gives a result of an allowed
source. -/
inductive Overlooks : List Nat → List Exchange → Prop
  | nil : Overlooks [] []
  | cons {place : Nat} {places : List Nat} {answer : Except StoreError (Option SearchResult)}
      {events : List Exchange} :
      (∀ result, answer = .ok (some result) → result.sourceId ∉ allowed) →
      Overlooks places events →
      Overlooks (place :: places) (.store place (.searchMedia query) (.search answer) :: events)

/-- Searches in the stores at places in a row up to the first result of an allowed source, if there
is one. It is written into the stores that were read before and into those `passed` already. -/
inductive Finds (passed places : List Nat) : Option SearchResult → List Exchange → Prop
  | missed {misses : List Exchange} :
      Overlooks query allowed places misses → Finds passed places none misses
  | found {before after : List Nat} {place : Nat} {result : SearchResult}
      {misses written : List Exchange} :
      places = before ++ place :: after → Overlooks query allowed before misses →
      result.sourceId ∈ allowed → Fills [.cacheSearch query result] (passed ++ before) written →
      Finds passed places (some result)
        (misses ++ .store place (.searchMedia query) (.search (.ok (some result))) :: written)

/-- Calls of the sources at places in a row, up to the first that gives a result or fails. -/
inductive Asks : List Nat → Except SourceError (Option SearchResult) → List Exchange → Prop
  | nil : Asks [] (.ok none) []
  | unknown {place : Nat} {places : List Nat} {answer : Except SourceError (Option SearchResult)}
      {events : List Exchange} :
      Asks places answer events →
      Asks (place :: places) answer
        (.source place (.searchMedia query) (.search (.ok none)) :: events)
  | answered {place : Nat} (places : List Nat)
      {answer : Except SourceError (Option SearchResult)} :
      answer ≠ .ok none →
      Asks (place :: places) answer [.source place (.searchMedia query) (.search answer)]

/-- The calls of a search with its answer, where only the first `readable` of the stores are read
and the sources have the ids. -/
inductive SearchThrough (stores readable : Nat) (ids : List String) :
    Except SourceError (Option SearchResult) → List Exchange → Prop
  /-- A store is the first to have a result of an allowed source. -/
  | stored {place : Nat} {result : SearchResult} {misses written : List Exchange} :
      place < readable → Overlooks query allowed (List.range place) misses →
      result.sourceId ∈ allowed →
      Fills [.cacheSearch query result] (List.range place) written →
      SearchThrough stores readable ids (.ok (some result))
        (misses ++ .store place (.searchMedia query) (.search (.ok (some result))) :: written)
  /-- An allowed source is the first to have a result. -/
  | found {result : SearchResult} {misses asked written : List Exchange} :
      Overlooks query allowed (List.range readable) misses →
      Asks query (ids.findIdxs allowed.contains) (.ok (some result)) asked →
      Fills [.cacheSearch query result] (List.range stores) written →
      SearchThrough stores readable ids (.ok (some result)) (misses ++ (asked ++ written))
  /-- No allowed source has a result, or one of them fails first. -/
  | unknown {answer : Except SourceError (Option SearchResult)} {misses asked : List Exchange} :
      Overlooks query allowed (List.range readable) misses →
      Asks query (ids.findIdxs allowed.contains) answer asked →
      (∀ result, answer ≠ .ok (some result)) →
      SearchThrough stores readable ids answer (misses ++ asked)

end Journal

/-! ### Sources that are called -/

/-- The exchange is no call of a source outside some places. -/
def Exchange.Within (places : List Nat) : Exchange → Prop
  | .source place _ _ => place ∈ places
  | .store .. => True

theorem Overlooks.within {places sources : List Nat} {events : List Exchange}
    (h : Overlooks query allowed places events) : ∀ exchange ∈ events, exchange.Within sources := by
  induction h with
  | nil => simp
  | cons _ _ ih => simpa [Exchange.Within] using ih

theorem Attempts.within {place : Nat} {writes : List Tier.Call} {sources : List Nat}
    {events : List Exchange} (h : Attempts place writes events) :
    ∀ exchange ∈ events, exchange.Within sources := by
  induction h with
  | nil => simp
  | failed => simp [Exchange.Within]
  | made _ _ ih => simpa [Exchange.Within] using ih

theorem Fills.within {writes : List Tier.Call} {places sources : List Nat}
    {events : List Exchange} (h : Fills writes places events) :
    ∀ exchange ∈ events, exchange.Within sources := by
  induction h with
  | nil => simp
  | cons hfirst _ ih => exact List.forall_mem_append.mpr ⟨hfirst.within, ih⟩

theorem Asks.within {places : List Nat} {answer : Except SourceError (Option SearchResult)}
    {events : List Exchange} (h : Asks query places answer events) :
    ∀ exchange ∈ events, exchange.Within places := by
  induction h with
  | nil => simp
  | answered => simp [Exchange.Within]
  | @unknown place places _ events _ ih =>
    refine List.forall_mem_cons.mpr ⟨List.mem_cons_self, fun exchange hexchange => ?_⟩
    -- what is among the later places is among all of them
    cases exchange with
    | store => trivial
    | source other call told => exact List.mem_cons_of_mem _ (ih _ hexchange)

/-- A search calls no other sources than the allowed ones. -/
theorem SearchThrough.within {stores readable : Nat} {ids : List String}
    {answer : Except SourceError (Option SearchResult)} {events : List Exchange}
    (h : SearchThrough query allowed stores readable ids answer events) :
    ∀ exchange ∈ events, exchange.Within (ids.findIdxs allowed.contains) := by
  cases h with
  | stored _ hmisses _ hwritten =>
    exact List.forall_mem_append.mpr
      ⟨hmisses.within, List.forall_mem_cons.mpr ⟨trivial, hwritten.within⟩⟩
  | found hmisses hasked hwritten =>
    exact List.forall_mem_append.mpr
      ⟨hmisses.within, List.forall_mem_append.mpr ⟨hasked.within, hwritten.within⟩⟩
  | unknown hmisses hasked _ => exact List.forall_mem_append.mpr ⟨hmisses.within, hasked.within⟩

/-! ### Parts of a search -/

/-- A search in a store is noted with all that the store gave, allowed or not. -/
theorem traces_searchTier (place : Nat) (tier : Tier (StateM σ)) :
    Traces (Resolver.searchTier allowed query (tier.watched place))
      (Resolver.searchTier allowed query tier) fun answer made => ∃ told,
        answer = told.map (·.filter fun result => allowed.contains result.sourceId) ∧
        made = [.store place (.searchMedia query) (.search told)] := by
  refine (traces_watch (.store place (.searchMedia query) <| .search ·) _).bind ?_
  rintro told _ rfl
  exact .pure ⟨told, rfl, rfl⟩

/-- A read that gives no allowed result stands before the others. -/
theorem Finds.skip {passed places : List Nat} {place : Nat} {found : Option SearchResult}
    {told : Except StoreError (Option SearchResult)} {events : List Exchange}
    (htold : ∀ result, told = .ok (some result) → result.sourceId ∉ allowed)
    (h : Finds query allowed (passed ++ [place]) places found events) :
    Finds query allowed passed (place :: places) found
      (.store place (.searchMedia query) (.search told) :: events) := by
  cases h with
  | missed hmisses => exact .missed (.cons htold hmisses)
  | found hplaces hmisses hallowed hwritten =>
    rw [List.append_assoc] at hwritten
    have hfound :=
      Finds.found (congrArg (place :: ·) hplaces) (.cons htold hmisses) hallowed hwritten
    exact hfound

/-- The write of a search result. -/
theorem traces_cacheSearch (place : Nat) (tier : Tier (StateM σ)) (result : SearchResult) :
    Traces ((tier.watched place).cacheSearch query result) (tier.cacheSearch query result)
      fun _ made => Attempts place [.cacheSearch query result] made :=
  traces_write place (.cacheSearch query result) _

variable (query allowed) in
theorem traces_readTiersFrom_search (passed placed : List (Tier (StateM σ) × Nat)) :
    Traces
      (readTiersFrom (Resolver.searchTier allowed query)
        (fun tier result => tier.cacheSearch query result) (watchedTiers passed)
        (watchedTiers placed))
      (readTiersFrom (Resolver.searchTier allowed query)
        (fun tier result => tier.cacheSearch query result) (passed.map (·.1)) (placed.map (·.1)))
      (Finds query allowed (passed.map (·.2)) (placed.map (·.2))) := by
  -- a store without an allowed result joins those to be filled, so these vary
  induction placed generalizing passed with
  | nil => exact .pure (.missed .nil)
  | cons first placed ih =>
    refine (traces_searchTier first.2 first.1).bind ?_
    rintro answer _ ⟨told, rfl, rfl⟩
    have hlater := ih (passed ++ [first])
    simp only [watchedTiers, List.map_append, List.map_cons, List.map_nil] at hlater
    rcases told with e | _ | result
    · exact hlater.mono fun _ _ hfinds => hfinds.skip (by simp)
    · exact hlater.mono fun _ _ hfinds => hfinds.skip (by simp)
    · have hcount : (Except.ok (some result) : Except StoreError _).map
          (·.filter fun result => allowed.contains result.sourceId) =
            .ok (if result.sourceId ∈ allowed then some result else none) := by
        simp only [Except.map, Option.filter_some, List.contains_eq_mem, decide_eq_true_eq]
      rw [hcount]
      by_cases hallowed : result.sourceId ∈ allowed
      · -- only the stores that were passed take the result; those behind are not even read
        rw [if_pos hallowed]
        refine (traces_populate passed
          fun place tier => traces_cacheSearch place tier result).bind ?_
        intro _ written hwritten
        rw [← List.append_nil (passed.map _)] at hwritten
        have hfound :=
          Finds.found (rfl : (first :: placed).map (·.2) = [] ++ _) .nil hallowed hwritten
        refine .pure ?_
        rw [List.append_nil]
        exact hfound
      · rw [if_neg hallowed]
        refine hlater.mono fun _ _ hfinds => hfinds.skip ?_
        rintro _ ⟨⟩
        exact hallowed

variable (query) in
/-- Sources are called in their order up to a result or a failure. -/
theorem traces_searchSources (placed : List (Source (StateM σ) × Nat)) :
    Traces (Resolver.searchSources query (watchedSources placed))
      (Resolver.searchSources query (placed.map (·.1)))
      fun answer made => Asks query (placed.map (·.2)) answer made := by
  induction placed with
  | nil => exact .pure .nil
  | cons first placed ih =>
    refine (traces_watch (.source first.2 (.searchMedia query) <| .search ·) _).bind ?_
    rintro answer _ rfl
    match answer with
    | .ok none => exact ih.mono fun _ _ hasks => .unknown hasks
    | .ok (some result) => exact .pure (.answered _ (by simp))
    | .error e => exact .pure (.answered _ (by simp))

/-- The allowed sources with their places. -/
theorem exists_placed_sources (resolver : Resolver (StateM σ)) (allowed : List String) :
    ∃ placed : List (Source (StateM σ) × Nat),
      watchedSources placed = resolver.watched.sources.filter (allowed.contains ·.sourceId) ∧
      placed.map (·.1) = resolver.sources.filter (allowed.contains ·.sourceId) ∧
      placed.map (·.2) = resolver.sourceIds.findIdxs allowed.contains := by
  refine ⟨resolver.sources.zipIdx.filter (allowed.contains ·.1.sourceId), ?_, ?_, ?_⟩
  · rw [Resolver.watched, watchedSources, watchedSources, List.filter_map]
    rfl
  · rw [← List.zipIdx_map_fst 0 resolver.sources, List.filter_map, List.zipIdx_map_fst]
    rfl
  · rw [Resolver.sourceIds, List.findIdxs_map]
    generalize 0 = start
    induction resolver.sources generalizing start with
    | nil => rfl
    | cons source sources ih =>
      rw [List.zipIdx_cons, List.filter_cons, List.findIdxs_cons, Function.comp_apply, ← ih]
      split <;> simp_all

/-- A search reads stores, calls allowed sources if none has a result of one of them, and fills
stores. -/
theorem traces_searchMedia (resolver : Resolver (StateM σ)) (query : Query)
    (allowed : List String) (refresh : Bool) :
    Traces (resolver.watched.searchMedia query allowed refresh)
      (resolver.searchMedia query allowed refresh)
      (SearchThrough query allowed resolver.tiers.length
        (if refresh then min 1 resolver.tiers.length else resolver.tiers.length)
        resolver.sourceIds) := by
  obtain ⟨placed, hwatched, htiers, hplaces⟩ := exists_placed resolver refresh
  obtain ⟨asked, hasked, hsources, hallowed⟩ := exists_placed_sources resolver allowed
  have hreads := traces_readTiersFrom_search query allowed [] placed
  rw [hwatched, htiers, hplaces] at hreads
  refine hreads.bind fun found front hfront => ?_
  cases hfront with
  | found hplaces hmisses hresult hwritten =>
    obtain ⟨hplace, rfl⟩ := range_eq_append_cons hplaces
    refine .pure ?_
    rw [List.append_nil]
    exact .stored hplace hmisses hresult hwritten
  | missed hmisses =>
    have hcalled := traces_searchSources query asked
    rw [hasked, hsources, hallowed] at hcalled
    refine hcalled.bind fun answer back hback => ?_
    match answer with
    | .error e =>
      refine .pure ?_
      rw [List.append_nil]
      exact .unknown hmisses hback (by simp)
    | .ok none =>
      refine .pure ?_
      rw [List.append_nil]
      exact .unknown hmisses hback (by simp)
    | .ok (some result) =>
      refine (traces_populate_all resolver fun place tier =>
        traces_cacheSearch place tier result).bind fun _ written hwritten => .pure ?_
      rw [List.append_nil]
      exact .found hmisses hback hwritten

/-! ### Results of allowed sources -/

/-- The result is one of an allowed source, if there is a result. -/
def IsAllowed (allowed : List String) (answer : Except SourceError (Option SearchResult)) : Prop :=
  ∀ result, answer = .ok (some result) → result.sourceId ∈ allowed

/-- Allowed sources that sign their results give no others. -/
theorem keeps_searchSources_isAllowed {sources : List (Source (StateM σ))}
    (h : ∀ source ∈ sources, source.Signs ∧ source.sourceId ∈ allowed) :
    Keeps (fun _ => True) (Resolver.searchSources query sources) (IsAllowed allowed) := by
  induction sources with
  | nil => exact .pure nofun
  | cons source sources ih =>
    obtain ⟨hsigns, hallowed⟩ := h source List.mem_cons_self
    have hcall : Keeps (fun _ => True) (source.searchMedia query) (IsAllowed allowed) :=
      fun world _ => ⟨fun result hresult => hsigns query world result hresult ▸ hallowed, trivial⟩
    refine hcall.bind fun answer hanswer => ?_
    match answer with
    | .ok none => exact ih fun other hother => h other (List.mem_cons_of_mem _ hother)
    | .ok (some result) => exact .pure hanswer
    | .error e => exact .pure hanswer

/-- Whatever stores hold, a search gives no result of another source. -/
theorem keeps_searchMedia_isAllowed {resolver : Resolver (StateM σ)}
    (hsigns : ∀ source ∈ resolver.sources, source.Signs) (query : Query) (allowed : List String)
    (refresh : Bool) :
    Keeps (fun _ => True) (resolver.searchMedia query allowed refresh) (IsAllowed allowed) := by
  have hany {β : Type} (effect : StateM σ β) : Keeps (fun _ => True) effect fun _ => True :=
    fun _ _ => ⟨trivial, trivial⟩
  have hstores : Keeps (fun _ => True)
      (readTiers (Resolver.searchTier allowed query)
        (fun tier result => tier.cacheSearch query result) (resolver.readable refresh))
      fun found => ∀ result, found = some result → result.sourceId ∈ allowed := by
    refine .readTiers (fun tier _ => (hany _).bind fun told _ => .pure ?_) fun _ _ _ _ => hany _
    intro result hresult
    cases told with
    | error e => cases hresult
    | ok found =>
      obtain ⟨-, hallowed⟩ := Option.filter_eq_some_iff.mp (Except.ok.inj hresult)
      simpa using hallowed
  refine hstores.bind fun found hfound => ?_
  match found with
  | some result =>
    refine .pure ?_
    rintro _ ⟨⟩
    exact hfound result rfl
  | none =>
    have hsources : ∀ source ∈ resolver.sources.filter (allowed.contains ·.sourceId),
        source.Signs ∧ source.sourceId ∈ allowed := by
      intro source hsource
      obtain ⟨hmem, hallowed⟩ := List.mem_filter.mp hsource
      exact ⟨hsigns source hmem, by simpa using hallowed⟩
    refine (keeps_searchSources_isAllowed hsources).bind fun answer hanswer => ?_
    match answer with
    | .ok none => exact .pure hanswer
    | .ok (some result) => exact (hany _).bind fun _ _ => .pure hanswer
    | .error e => exact .pure hanswer

/-- Whatever its stores and sources give back, a search reads its stores in order, only the first
one with `refresh`, up to a result of an allowed source, and calls the allowed sources in order only
if there is none, up to a result or a failure. A result is written into the stores before the one
that gave it, or into all of them if a source did, and comes from an allowed source. -/
theorem Resolver.searches_through (resolver : Resolver (StateM σ))
    (hsigns : ∀ source ∈ resolver.sources, source.Signs) (query : Query) (allowed : List String)
    (refresh : Bool) :
    let stores := resolver.tiers.length
    let readable := if refresh then min 1 stores else stores
    Traces (resolver.watched.searchMedia query allowed refresh)
      (resolver.searchMedia query allowed refresh)
      fun answer calls =>
        (∀ result, answer = .ok (some result) → result.sourceId ∈ allowed) ∧
        (∀ place call told, .source place call told ∈ calls →
          ∃ id ∈ allowed, resolver.sourceIds[place]? = some id) ∧
        SearchThrough query allowed stores readable resolver.sourceIds answer calls := by
  intro stores readable world calls
  obtain ⟨made, hthrough, hrun⟩ := traces_searchMedia resolver query allowed refresh world calls
  obtain ⟨hallowed, -⟩ := keeps_searchMedia_isAllowed hsigns query allowed refresh world trivial
  refine ⟨made, ⟨hallowed, fun place call told hcall => ?_, hthrough⟩, hrun⟩
  have hplace : place ∈ resolver.sourceIds.findIdxs allowed.contains := hthrough.within _ hcall
  obtain ⟨hlt, hid⟩ := List.mem_findIdxs_iff_exists_getElem_pos.mp hplace
  exact ⟨_, by simpa using hid, List.getElem?_eq_getElem hlt⟩

/-- A store that gives the same result for every query and answers every write alike. -/
def fixedTier (found : Except StoreError (Option SearchResult))
    (written : Except StoreError Unit) : Tier (StateM Unit) where
  name := "fixed"
  getShow _ := pure (.ok none)
  getSeason _ := pure (.ok none)
  getEpisode _ := pure (.ok none)
  getFilm _ := pure (.ok none)
  searchMedia _ := pure found
  cacheShow _ := pure written
  cacheSeason _ := pure written
  cacheEpisode _ := pure written
  cacheFilm _ := pure written
  cacheSearch _ _ := pure written

/-- A catalog that gives the same result for every query and knows nothing else. -/
def fixedSource (id : String) (found : Except SourceError (Option SearchResult)) :
    Source (StateM Unit) :=
  .ofAnswers id
    { getShow := fun _ => .ok none
      getSeason := fun _ _ => .ok none
      getFilm := fun _ => .ok none
      searchMedia := fun _ => found }

/-- The stores fail or hold a result of a source that is not allowed. That source is not called, of
the two that are the second has a result, and one of the stores does not take it. -/
theorem Resolver.searches_through_elsewhere :
    let query : Query := { term := "lost", mode := .tvShow }
    let kept : SearchResult := { id := "1", sourceId := "imdb", mode := .tvShow }
    let result : SearchResult := { id := "7", sourceId := "tmdb", mode := .tvShow }
    let away : StoreError := .unavailable "away"
    let resolver : Resolver (StateM Unit) :=
      ⟨[fixedTier (.ok (some kept)) (.ok ()), fixedTier (.error away) (.error away)],
        [fixedSource "imdb" (.ok (some kept)), fixedSource "tvmaze" (.ok none),
          fixedSource "tmdb" (.ok (some result))]⟩
    let run := resolver.watched.searchMedia query ["tmdb", "tvmaze"] false ⟨(), []⟩
    (∀ source ∈ resolver.sources, source.Signs) ∧
    run.1 = .ok (some result) ∧
    (∀ call told, .source 0 call told ∉ run.2.calls) ∧
    SearchThrough query ["tmdb", "tvmaze"] 2 2 ["imdb", "tvmaze", "tmdb"] (.ok (some result))
      run.2.calls := by
  intro query kept result away resolver run
  have hsigns : ∀ source ∈ resolver.sources, source.Signs := by
    intro source hsource
    simp only [resolver, List.mem_cons, List.not_mem_nil, or_false] at hsource
    rcases hsource with rfl | rfl | rfl <;> rintro _ _ _ ⟨⟩ <;> rfl
  obtain ⟨made, ⟨-, hcalled, hthrough⟩, hrun⟩ :=
    resolver.searches_through hsigns query ["tmdb", "tvmaze"] false () []
  have hcalls : run.2.calls = made := congrArg (·.2.calls) hrun
  refine ⟨hsigns, rfl, fun call told hcall => ?_, hcalls ▸ hthrough⟩
  obtain ⟨id, hid, hplace⟩ := hcalled 0 call told (hcalls ▸ hcall)
  obtain rfl : "imdb" = id := Option.some.inj hplace
  simp at hid

end MediaShelf
