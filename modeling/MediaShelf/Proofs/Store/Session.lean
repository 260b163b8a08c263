import MediaShelf.Proofs.Store.JsonFiles
import MediaShelf.Store.Call

/-!
# Stores in use

A store is used by calls in any order; a store on disk may be opened again at any time in between.
What comes back from the store on disk is what comes back from the one in memory.

## Main definitions

* `StoreStep`, `session` — calls in order, with the store opened again in between
* `Tier.Call.Portable` — the keys of the call are made of parts that file names keep
* `Tier.Call.ReadsBack` — the record that the call writes is read as it was written

## Main results

* `JsonStore.Refines.ask` — one call
* `session_json_eq_memory` — all answers of a session
-/

namespace MediaShelf

namespace Tier

/-- The keys of the call are made of parts that file names keep. -/
def Call.Portable : Call → Prop
  | .getShow key | .getFilm key => key.Portable
  | .getSeason key => key.Portable
  | .getEpisode key => key.season.Portable
  | .searchMedia query | .cacheSearch query _ => query.Portable
  | .cacheShow record => record.key.Portable
  | .cacheSeason season => season.key.Portable
  | .cacheEpisode episode => episode.seasonKey.Portable
  | .cacheFilm film => film.key.Portable

/-- The record that the call writes, if it writes one, is read as it was written. -/
def Call.ReadsBack : Call → Prop
  | .cacheShow record => Show.codec.ReadsBack record
  | .cacheSeason season => Season.codec.ReadsBack season
  | .cacheEpisode episode => Episode.codec.ReadsBack episode
  | .cacheFilm film => Film.codec.ReadsBack film
  | .cacheSearch _ result => SearchResult.codec.ReadsBack result
  | _ => True

end Tier

/-- What is done with a store. -/
inductive StoreStep where
  | call (call : Tier.Call)
  /-- The store is given up and opened again. -/
  | reopen

/-- What comes back from calls in order. A store that cannot be opened again stays in use. -/
def session {m : Type → Type} [Monad m] (reopen : m (Except CacheError (Tier m))) :
    Tier m → List StoreStep → m (List Tier.Answer)
  | _, [] => return []
  | tier, .call call :: steps => do
    let answer ← tier.ask call
    return answer :: (← session reopen tier steps)
  | tier, .reopen :: steps => do
    match ← reopen with
    | .ok opened => return .done (.ok ()) :: (← session reopen opened steps)
    | .error e => return .done (.error (.cache e)) :: (← session reopen tier steps)

/-- Opens the folders below a directory as a store without a time to live. -/
def JsonStore.reopening (base : Path) : StateM Disk (Except CacheError (Tier (StateM Disk))) := do
  return (← JsonStore.make base none).map JsonStore.tier

/-- The store of a running process is the same at any time. -/
def MemoryStore.reopening : StateM MemoryStore (Except CacheError (Tier (StateM MemoryStore))) :=
  return .ok MemoryStore.tier

namespace JsonStore

open Tier (Answer Call)

variable {base : Path} {place : Location} {disk : Disk} {memory : MemoryStore}

/-! ### One call -/

/-- An episode is found in the folders as it is in memory. -/
theorem Refines.findEpisode (h : Refines base place disk memory) {key : EpisodeKey}
    (hkey : key.season.Portable) :
    (below base).findEpisode disk key = .ok (memory.findEpisode? key) := by
  unfold JsonStore.findEpisode MemoryStore.findEpisode?
  rw [h.episodes.load key hkey]
  cases memory.episodes.lookup key with
  | some episode => rfl
  | none =>
    simp only [Bind.bind, Except.bind]
    rw [h.seasons.load key.season hkey]
    rfl

/-- A call gives the same on disk as in memory, and the folders go on mirroring the maps. -/
theorem Refines.ask (h : Refines base place disk memory) {call : Call} (hcall : call.Portable)
    (hreads : call.ReadsBack) (hdone : ((below base).tier.ask call disk).1.failed = false) :
    ((below base).tier.ask call disk).1 = (MemoryStore.tier.ask call memory).1 ∧
      Refines base place ((below base).tier.ask call disk).2
        (MemoryStore.tier.ask call memory).2 := by
  -- what a write gives, and that it was made
  have hwritten {written : Except CacheError Unit}
      (hwrite : (Answer.done (written.mapError .cache)).failed = false) : written = .ok () := by
    cases written with
    | error e => cases hwrite
    | ok value => rfl
  cases call with
  | getShow key =>
    have hfound := h.shows.load key hcall
    exact ⟨congrArg (fun found => Answer.show (Except.mapError StoreError.cache found)) hfound, h⟩
  | getSeason key =>
    have hfound := h.seasons.load key hcall
    exact ⟨congrArg (fun found => Answer.season (Except.mapError StoreError.cache found)) hfound, h⟩
  | getEpisode key =>
    have hfound := h.findEpisode hcall
    exact
      ⟨congrArg (fun found => Answer.episode (Except.mapError StoreError.cache found)) hfound, h⟩
  | getFilm key =>
    have hfound := h.films.load key hcall
    exact ⟨congrArg (fun found => Answer.film (Except.mapError StoreError.cache found)) hfound, h⟩
  | searchMedia query =>
    have hfound := h.searches.load query.key ⟨query, hcall, rfl⟩
    exact ⟨congrArg (fun found => Answer.search (Except.mapError StoreError.cache found)) hfound, h⟩
  | cacheShow record =>
    have hstored := hwritten hdone
    exact ⟨congrArg (fun written => Answer.done (Except.mapError StoreError.cache written)) hstored,
      h.putShow hcall hreads hstored⟩
  | cacheSeason season =>
    have hstored := hwritten hdone
    exact ⟨congrArg (fun written => Answer.done (Except.mapError StoreError.cache written)) hstored,
      h.putSeason hcall hreads hstored⟩
  | cacheEpisode episode =>
    have hstored := hwritten hdone
    exact ⟨congrArg (fun written => Answer.done (Except.mapError StoreError.cache written)) hstored,
      h.putEpisode hcall hreads hstored⟩
  | cacheFilm film =>
    have hstored := hwritten hdone
    exact ⟨congrArg (fun written => Answer.done (Except.mapError StoreError.cache written)) hstored,
      h.putFilm hcall hreads hstored⟩
  | cacheSearch query result =>
    have hstored := hwritten hdone
    exact ⟨congrArg (fun written => Answer.done (Except.mapError StoreError.cache written)) hstored,
      h.putSearch hcall hreads hstored⟩

end JsonStore

/-! ### Sessions -/

section Session

variable {σ : Type} {reopen : StateM σ (Except CacheError (Tier (StateM σ)))}
  {tier opened : Tier (StateM σ)} {steps : List StoreStep} {s next : σ}

theorem session_call {call : Tier.Call} :
    (session reopen tier (.call call :: steps) s).1 =
      (tier.ask call s).1 :: (session reopen tier steps (tier.ask call s).2).1 := rfl

theorem session_reopen (h : reopen s = (.ok opened, next)) :
    (session reopen tier (.reopen :: steps) s).1 =
      .done (.ok ()) :: (session reopen opened steps next).1 := by
  simp only [session, Bind.bind, StateT.bind, h]
  rfl

theorem session_reopen_error {e : CacheError} (h : reopen s = (.error e, next)) :
    (session reopen tier (.reopen :: steps) s).1 =
      .done (.error (.cache e)) :: (session reopen tier steps next).1 := by
  simp only [session, Bind.bind, StateT.bind, h]
  rfl

end Session

namespace JsonStore

variable {base : Path} {place : Location} {disk : Disk} {memory : MemoryStore}

/-- Folders that mirror the maps answer like them from then on. -/
theorem Refines.session (h : Refines base place disk memory) {steps : List StoreStep}
    (hcalls : ∀ call, .call call ∈ steps → call.Portable)
    (hreads : ∀ call, .call call ∈ steps → call.ReadsBack)
    (hdone : ∀ answer ∈ (MediaShelf.session (reopening base) (below base).tier steps disk).1,
      answer.failed = false) :
    (MediaShelf.session (reopening base) (below base).tier steps disk).1 =
      (MediaShelf.session MemoryStore.reopening MemoryStore.tier steps memory).1 := by
  -- each step leads to a disk and a memory that mirror each other, and the rest goes on from there
  induction steps generalizing disk memory with
  | nil => rfl
  | cons step steps ih =>
    have hlater {next : Disk} {after : MemoryStore} (hnext : Refines base place next after) :=
      ih hnext (fun call hmem => hcalls call (List.mem_cons_of_mem _ hmem))
        (fun call hmem => hreads call (List.mem_cons_of_mem _ hmem))
    cases step with
    | call call =>
      rw [session_call] at hdone ⊢
      rw [session_call]
      obtain ⟨hanswer, hnext⟩ := h.ask (hcalls call List.mem_cons_self)
        (hreads call List.mem_cons_self) (hdone _ List.mem_cons_self)
      rw [hanswer, hlater hnext fun answer hmem => hdone answer (List.mem_cons_of_mem _ hmem)]
    | reopen =>
      -- an opening that fails ends the case, since no answer is a failure
      have hreopen : reopening base disk =
          ((make base none disk).1.map JsonStore.tier, (make base none disk).2) := rfl
      cases hmade : (make base none disk).1 with
      | error e =>
        rw [hmade] at hreopen
        rw [session_reopen_error hreopen] at hdone
        cases hdone _ List.mem_cons_self
      | ok store =>
        obtain ⟨rfl, hnext⟩ := h.reopen hmade
        rw [hmade] at hreopen
        rw [session_reopen hreopen] at hdone ⊢
        rw [hlater hnext fun answer hmem => hdone answer (List.mem_cons_of_mem _ hmem)]
        rfl

end JsonStore

/-- A store on disk without a time to live, opened in an empty directory and again at any time,
answers as a store in memory does, as long as ids and queries are made of parts that file names
keep, records are read as they were written, and no write and no opening fails. -/
theorem session_json_eq_memory {base : Path} {disk : Disk} (hformed : disk.tree.WellFormed)
    (hempty : disk.tree.children base = .ok []) {store : JsonStore}
    (hopened : (JsonStore.make base none disk).1 = .ok store) {steps : List StoreStep}
    (hcalls : ∀ call, .call call ∈ steps → call.Portable)
    (hreads : ∀ call, .call call ∈ steps → call.ReadsBack)
    (hdone : ∀ answer ∈ (session (JsonStore.reopening base) store.tier steps
      (JsonStore.make base none disk).2).1, answer.failed = false) :
    (session (JsonStore.reopening base) store.tier steps (JsonStore.make base none disk).2).1 =
      (session MemoryStore.reopening MemoryStore.tier steps {}).1 := by
  obtain ⟨rfl, place, hrefines⟩ := JsonStore.refines_make hformed hempty hopened
  exact hrefines.session hcalls hreads hdone

/-- The file of an episode of season 10 outlives that season 1 is kept. -/
theorem session_json_eq_memory_tenth :
    let first : Season :=
      { sourceId := "t", showId := "a", seasonNumber := 1, episodes := [], specials := [] }
    let pilot : Episode :=
      { sourceId := "t", showId := "a", seasonNumber := 10, episodeNumbers := [2], title := "" }
    let steps : List StoreStep := [.call (.cacheEpisode pilot), .reopen,
      .call (.cacheSeason first), .call (.getEpisode ⟨⟨"t", "a", 10⟩, false, 2⟩)]
    let base : Path := ⟨['/', 'c']⟩
    let disk : Disk := { tree := { entries := [([['c']], .directory)] } }
    (session (JsonStore.reopening base) (JsonStore.below base).tier steps
        (JsonStore.make base none disk).2).1 =
      (session MemoryStore.reopening MemoryStore.tier steps {}).1 := by
  intro first pilot steps base disk
  have hformed : disk.tree.WellFormed := by
    refine FileTree.wellFormed_of_entries ?_ rfl
    simp [disk, FileTree.get?]
  have hsteps {call : Tier.Call} (hcall : .call call ∈ steps) : call = .cacheEpisode pilot ∨
      call = .cacheSeason first ∨ call = .getEpisode ⟨⟨"t", "a", 10⟩, false, 2⟩ := by
    simpa [steps] using hcall
  have hdone : ∀ answer ∈ (session (JsonStore.reopening base) (JsonStore.below base).tier steps
      (JsonStore.make base none disk).2).1, answer.failed = false := by decide +kernel
  have hempty : disk.tree.children base = .ok [] := by decide
  have hopens : (JsonStore.make base none disk).1.isOk := by decide +kernel
  obtain ⟨store, hopened⟩ : ∃ store, (JsonStore.make base none disk).1 = .ok store := by
    cases hmade : (JsonStore.make base none disk).1 with
    | error e => simp [hmade, Except.isOk, Except.toBool] at hopens
    | ok store => exact ⟨store, rfl⟩
  obtain ⟨rfl, -⟩ := JsonStore.refines_make hformed hempty hopened
  have hpilot : Episode.codec.ReadsBack pilot := by decide +kernel
  have hfirst : Season.codec.ReadsBack first := by decide +kernel
  refine session_json_eq_memory hformed hempty hopened ?_ ?_ hdone
  · intro call hcall
    rcases hsteps hcall with rfl | rfl | rfl
    all_goals constructor <;> decide
  · intro call hcall
    rcases hsteps hcall with rfl | rfl | rfl
    · simpa only [Tier.Call.ReadsBack] using hpilot
    · simpa only [Tier.Call.ReadsBack] using hfirst
    · trivial

end MediaShelf
