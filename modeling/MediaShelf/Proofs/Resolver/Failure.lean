import MediaShelf.Proofs.Resolver.SearchThrough

/-!
# Requests that fail

A store that fails stops nothing, so a request fails only where a source does. By then stores have
been read and sources called, but nothing has been written: a record is written only once it is
found, and then the request succeeds.

## Main definitions

* `Exchange.isWrite`, `Source.Answer.failure?` — calls that may change a store, and failures of a
  source
* `Quiet` — a journal without a write
* `FailsQuietly` — a failure leaves nothing behind and is that of the last source that was called

## Main results

* `traces_readTiers_quiet` — stores that give nothing are not written
* `traces_resolve_quiet`, `SearchThrough.failsQuietly` — the two ways to fail
* `Resolver.fails_quietly` — requests of all kinds
-/

namespace MediaShelf

variable {σ α β : Type}

/-- Whether the exchange is a call that may change a store. -/
def Exchange.isWrite : Exchange → Bool
  | .store _ call _ => call.isWrite
  | .source .. => false

/-- The failure that a source gave for an answer. -/
def Source.Answer.failure? : Source.Answer → Option SourceError
  | .show (.error e) | .season (.error e) | .film (.error e) | .search (.error e) => some e
  | _ => none

/-- No store is written. -/
def Quiet (calls : List Exchange) : Prop := ∀ exchange ∈ calls, exchange.isWrite = false

/-- If the answer is a failure, then no store has been written, and the call made last was that of
one of the sources, which failed so. -/
def FailsQuietly (sources : Nat) (answer : Except SourceError α) (calls : List Exchange) : Prop :=
  ∀ e, answer = .error e → Quiet calls ∧ ∃ front place call told,
    calls = front ++ [.source place call told] ∧ place < sources ∧ told.failure? = some e

theorem quiet_append {calls later : List Exchange} :
    Quiet (calls ++ later) ↔ Quiet calls ∧ Quiet later :=
  List.forall_mem_append

namespace FailsQuietly

variable {sources : Nat} {front calls : List Exchange}

theorem ok (value : α) : FailsQuietly sources (.ok value) calls := nofun

/-- What is made of a record changes nothing about a failure. -/
theorem map {answer : Except SourceError α} (h : FailsQuietly sources answer calls) (f : α → β) :
    FailsQuietly sources (answer.map f) calls := by
  rintro e hanswer
  cases answer with
  | ok value => cases hanswer
  | error cause =>
    obtain rfl : cause = e := Except.error.inj hanswer
    exact h cause rfl

/-- Calls without a write may stand in front. -/
theorem append {answer : Except SourceError α} (hfront : Quiet front)
    (h : FailsQuietly sources answer calls) : FailsQuietly sources answer (front ++ calls) := by
  rintro e hanswer
  obtain ⟨hquiet, before, place, call, told, rfl, hplace, htold⟩ := h e hanswer
  refine ⟨quiet_append.mpr ⟨hfront, hquiet⟩, front ++ before, place, call, told, ?_, hplace, htold⟩
  rw [List.append_assoc]

/-- A call of a source fails as the source does. -/
theorem source {answer : Except SourceError α} {place : Nat} (hplace : place < sources)
    (call : Source.Call) {told : Source.Answer}
    (htold : ∀ e, answer = .error e → told.failure? = some e) :
    FailsQuietly sources answer [.source place call told] := by
  intro e hanswer
  exact ⟨by simp [Quiet, Exchange.isWrite], [], place, call, told, rfl, hplace, htold e hanswer⟩

end FailsQuietly

/-! ### Records -/

section Request

variable
  {watchedRead : Tier (StateM (Watched σ)) → StateM (Watched σ) (Except StoreError (Option α))}
  {read : Tier (StateM σ) → StateM σ (Except StoreError (Option α))}
  {watchedFetch : Source (StateM (Watched σ)) → StateM (Watched σ) (Except SourceError (Option α))}
  {fetch : Source (StateM σ) → StateM σ (Except SourceError (Option α))}
  {watchedWrite : Tier (StateM (Watched σ)) → α → StateM (Watched σ) (Except StoreError Unit)}
  {write : Tier (StateM σ) → α → StateM σ (Except StoreError Unit)} {writes : α → List Tier.Call}

/-- Stores that give nothing are read and not written. -/
theorem traces_readTiersFrom_quiet
    (hread : ∀ place tier, Traces (watchedRead (tier.watched place)) (read tier)
      fun _ made => Quiet made)
    (hwrite : ∀ place tier value, Traces (watchedWrite (tier.watched place) value)
      (write tier value) fun _ made => Attempts place (writes value) made)
    (passed placed : List (Tier (StateM σ) × Nat)) :
    Traces (readTiersFrom watchedRead watchedWrite (watchedTiers passed) (watchedTiers placed))
      (readTiersFrom read write (passed.map (·.1)) (placed.map (·.1)))
      fun found made => found = none → Quiet made := by
  induction placed generalizing passed with
  | nil => exact .pure fun _ => by simp [Quiet]
  | cons first placed ih =>
    refine (hread first.2 first.1).bind fun answer front hfront => ?_
    have hlater := ih (passed ++ [first])
    simp only [watchedTiers, List.map_append, List.map_cons, List.map_nil] at hlater
    have hmissed := hlater.mono fun _ _ hquiet hnone =>
      quiet_append.mpr ⟨hfront, hquiet hnone⟩
    rcases answer with e | _ | value
    · exact hmissed
    · exact hmissed
    · -- here stores are written, but something was found
      refine (traces_populate passed fun place tier => hwrite place tier value).bind ?_
      exact fun _ _ _ => .pure fun hnone => absurd hnone (Option.some_ne_none value)

theorem traces_readTiers_quiet (resolver : Resolver (StateM σ)) (refresh : Bool)
    (hread : ∀ place tier, Traces (watchedRead (tier.watched place)) (read tier)
      fun _ made => Quiet made)
    (hwrite : ∀ place tier value, Traces (watchedWrite (tier.watched place) value)
      (write tier value) fun _ made => Attempts place (writes value) made) :
    Traces (readTiers watchedRead watchedWrite (resolver.watched.readable refresh))
      (readTiers read write (resolver.readable refresh))
      fun found made => found = none → Quiet made := by
  obtain ⟨placed, hwatched, htiers, -⟩ := exists_placed resolver refresh
  rw [← hwatched, ← htiers]
  exact traces_readTiersFrom_quiet hread hwrite [] placed

/-- A request for a record fails only where its source does. -/
theorem traces_resolve_quiet (resolver : Resolver (StateM σ)) (sourceId : String) (refresh : Bool)
    (hread : ∀ place tier, Traces (watchedRead (tier.watched place)) (read tier)
      fun _ made => Quiet made)
    (hfetch : ∀ place source, Traces (watchedFetch (source.watched place)) (fetch source)
      fun answer made => ∃ call told, made = [.source place call told] ∧
        ∀ e, answer = .error e → told.failure? = some e)
    (hwrite : ∀ place tier value, Traces (watchedWrite (tier.watched place) value)
      (write tier value) fun _ made => Attempts place (writes value) made) :
    Traces (resolver.watched.resolve sourceId refresh watchedRead watchedFetch watchedWrite)
      (resolver.resolve sourceId refresh read fetch write)
      (FailsQuietly resolver.sources.length) := by
  refine (traces_readTiers_quiet resolver refresh hread hwrite).bind fun found front hfront => ?_
  cases found with
  | some value => exact .pure (.ok _)
  | none =>
    cases hfind : resolver.sources.find? (·.sourceId == sourceId) with
    | none =>
      obtain ⟨-, hwatched⟩ := find?_watchedSources_none hfind
      simp only [Resolver.watched, hwatched]
      exact .pure (.ok _)
    | some source =>
      obtain ⟨place, hid, hwatched⟩ := find?_watchedSources hfind
      obtain ⟨hplace, -⟩ := List.idxOf?_eq_some_iff.mp hid
      rw [List.length_map] at hplace
      simp only [Resolver.watched, hwatched]
      refine (hfetch place source).bind ?_
      rintro answer _ ⟨call, told, rfl, htold⟩
      rcases answer with e | _ | value
      · refine .pure ?_
        rw [List.append_nil]
        exact (FailsQuietly.source hplace call htold).append (hfront rfl)
      · exact .pure (.ok _)
      · refine (traces_populate_all resolver fun place tier => hwrite place tier value).bind ?_
        exact fun _ _ _ => .pure (.ok _)

end Request

/-! ### Searches -/

variable {query : Query} {allowed : List String}

theorem Overlooks.quiet {places : List Nat} {events : List Exchange}
    (h : Overlooks query allowed places events) : Quiet events := by
  induction h with
  | nil => simp [Quiet]
  | cons _ _ ih => exact List.forall_mem_cons.mpr ⟨rfl, ih⟩

/-- Sources are called up to the first that fails. -/
theorem Asks.failsQuietly {places : List Nat} {answer : Except SourceError (Option SearchResult)}
    {events : List Exchange} {sources : Nat} (h : Asks query places answer events)
    (hplaces : ∀ place ∈ places, place < sources) : FailsQuietly sources answer events := by
  induction h with
  | nil => exact .ok _
  | @unknown place _ _ _ _ ih =>
    have hunknown : Quiet [.source place (.searchMedia query) (.search (.ok none))] := by
      simp [Quiet, Exchange.isWrite]
    exact (ih fun other hother => hplaces other (List.mem_cons_of_mem _ hother)).append hunknown
  | answered _ _ =>
    refine .source (hplaces _ List.mem_cons_self) _ ?_
    rintro e rfl
    rfl

/-- A search fails only where one of the sources does. -/
theorem SearchThrough.failsQuietly {stores readable : Nat} {ids : List String}
    {answer : Except SourceError (Option SearchResult)} {events : List Exchange}
    (h : SearchThrough query allowed stores readable ids answer events) :
    FailsQuietly ids.length answer events := by
  cases h with
  | stored => exact .ok _
  | found => exact .ok _
  | unknown hmisses hasked _ =>
    refine (hasked.failsQuietly fun place hplace => ?_).append hmisses.quiet
    obtain ⟨hlt, -⟩ := List.mem_findIdxs_iff_exists_getElem_pos.mp hplace
    exact hlt

/-! ### Requests of all kinds -/

/-- A read writes nothing. -/
theorem traces_read_quiet (place : Nat) {call : Tier.Call} (hcall : call.isWrite = false)
    (given : β → Tier.Answer) (effect : StateM σ β) :
    Traces (watch (.store place call <| given ·) effect) effect fun _ made => Quiet made :=
  (traces_watch _ _).mono fun _ _ hmade => by simp [hmade, Quiet, Exchange.isWrite, hcall]

/-- A call of a source notes its failure. -/
theorem traces_fetch_failure (place : Nat) (call : Source.Call)
    {told : Except SourceError β → Source.Answer} (htold : ∀ e, (told (.error e)).failure? = some e)
    (effect : StateM σ (Except SourceError β)) :
    Traces (watch (.source place call <| told ·) effect) effect fun answer made =>
      ∃ call told, made = [.source place call told] ∧ ∀ e, answer = .error e →
        told.failure? = some e :=
  (traces_watch _ _).mono fun _ _ hmade =>
    ⟨call, _, hmade, fun e hanswer => hanswer ▸ htold e⟩

namespace Resolver

variable (resolver : Resolver (StateM σ)) (refresh : Bool)

theorem traces_getSeason_quiet (key : SeasonKey) :
    Traces (resolver.watched.getSeason key refresh) (resolver.getSeason key refresh)
      (FailsQuietly resolver.sources.length) :=
  traces_resolve_quiet resolver key.sourceId refresh
    (fun place _ => traces_read_quiet place rfl .season _)
    (fun place _ => traces_fetch_failure place (.getSeason key.showId key.season) (fun _ => rfl) _)
    fun place tier season => traces_writeSeason key place tier season

/-- Where the stores have no episode, they have been read alone before its season is asked for. -/
theorem traces_getEpisode_quiet (key : EpisodeKey) :
    Traces (resolver.watched.getEpisode key refresh) (resolver.getEpisode key refresh)
      (FailsQuietly resolver.sources.length) := by
  refine (traces_readTiers_quiet resolver refresh
    (fun place _ => traces_read_quiet place rfl .episode _)
    fun place _ episode => traces_write place (.cacheEpisode episode) _).bind ?_
  intro found front hfront
  match found with
  | some episode => exact .pure (.ok _)
  | none =>
    refine (resolver.traces_getSeason_quiet refresh key.season).bind fun season back hback => ?_
    refine .pure ?_
    rw [List.append_nil]
    exact (hback.map _).append (hfront rfl)

/-- Whatever its stores and sources give back, a request that fails does so because a source that it
called last did, with the same failure, and it has written nothing into any store. -/
theorem fails_quietly :
    let sources := resolver.sources.length
    (∀ key, Traces (resolver.watched.getShow key refresh) (resolver.getShow key refresh)
      (FailsQuietly sources)) ∧
    (∀ key, Traces (resolver.watched.getSeason key refresh) (resolver.getSeason key refresh)
      (FailsQuietly sources)) ∧
    (∀ key, Traces (resolver.watched.getEpisode key refresh) (resolver.getEpisode key refresh)
      (FailsQuietly sources)) ∧
    (∀ key, Traces (resolver.watched.getFilm key refresh) (resolver.getFilm key refresh)
      (FailsQuietly sources)) ∧
    (∀ query allowed, Traces (resolver.watched.searchMedia query allowed refresh)
      (resolver.searchMedia query allowed refresh) (FailsQuietly sources)) := by
  refine ⟨fun key => ?_, resolver.traces_getSeason_quiet refresh,
    resolver.traces_getEpisode_quiet refresh, fun key => ?_, fun query allowed => ?_⟩
  · exact traces_resolve_quiet resolver key.sourceId refresh
      (fun place _ => traces_read_quiet place rfl .show _)
      (fun place _ => traces_fetch_failure place (.getShow key.id) (fun _ => rfl) _)
      fun place _ record => traces_write place (.cacheShow record) _
  · exact traces_resolve_quiet resolver key.sourceId refresh
      (fun place _ => traces_read_quiet place rfl .film _)
      (fun place _ => traces_fetch_failure place (.getFilm key.id) (fun _ => rfl) _)
      fun place _ film => traces_write place (.cacheFilm film) _
  · refine (traces_searchMedia resolver query allowed refresh).mono fun answer calls hcalls => ?_
    have hfails := hcalls.failsQuietly
    rw [sourceIds, List.length_map] at hfails
    exact hfails

end Resolver

end MediaShelf
