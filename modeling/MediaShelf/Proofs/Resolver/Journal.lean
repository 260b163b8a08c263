import MediaShelf.Resolver
import MediaShelf.Source.Call
import MediaShelf.Store.Call

/-!
# The calls of a resolver

A watched resolver notes every call of a store or a source together with what came back. Apart from
its journal it does what the resolver does by itself, so that whatever the journal shows is true of
the resolver.

## Main definitions

* `Exchange` — a call of a store or a source, and what came back
* `Faultless` — a journal without a write that failed
* `Watched` — a world, and the journal of the calls made in it
* `Resolver.watched` — a resolver that notes its calls
* `Traces` — what an effect does and what its watched counterpart notes

## Main results

* `Traces.bind` — effects in a row
* `traces_watch` — a single call
-/

namespace MediaShelf

variable {σ α β : Type}

/-- A call of a store or a source at a place, and what came back. -/
inductive Exchange where
  | store (place : Nat) (call : Tier.Call) (answer : Tier.Answer)
  | source (place : Nat) (call : Source.Call) (answer : Source.Answer)

/-- Whether a store failed at a write. -/
def Exchange.failed : Exchange → Bool
  | .store _ _ answer => answer.failed
  | .source .. => false

/-- No write has failed. -/
def Faultless (calls : List Exchange) : Prop := ∀ exchange ∈ calls, exchange.failed = false

instance (calls : List Exchange) : Decidable (Faultless calls) :=
  inferInstanceAs (Decidable (∀ exchange ∈ calls, exchange.failed = false))

theorem faultless_append {calls later : List Exchange} :
    Faultless (calls ++ later) ↔ Faultless calls ∧ Faultless later :=
  List.forall_mem_append

/-- A world, and the journal of the calls made in it, the first one first. -/
structure Watched (σ : Type) where
  world : σ
  calls : List Exchange := []

/-- An effect that is noted with its result. -/
def watch (note : α → Exchange) (effect : StateM σ α) : StateM (Watched σ) α := fun watched =>
  let (answer, world) := effect watched.world
  (answer, { world, calls := watched.calls ++ [note answer] })

/-- The store at a place, with its calls noted. -/
def Tier.watched (place : Nat) (tier : Tier (StateM σ)) : Tier (StateM (Watched σ)) where
  name := tier.name
  getShow key := watch (.store place (.getShow key) <| .show ·) (tier.getShow key)
  getSeason key := watch (.store place (.getSeason key) <| .season ·) (tier.getSeason key)
  getEpisode key := watch (.store place (.getEpisode key) <| .episode ·) (tier.getEpisode key)
  getFilm key := watch (.store place (.getFilm key) <| .film ·) (tier.getFilm key)
  searchMedia query :=
    watch (.store place (.searchMedia query) <| .search ·) (tier.searchMedia query)
  cacheShow record := watch (.store place (.cacheShow record) <| .done ·) (tier.cacheShow record)
  cacheSeason season :=
    watch (.store place (.cacheSeason season) <| .done ·) (tier.cacheSeason season)
  cacheEpisode episode :=
    watch (.store place (.cacheEpisode episode) <| .done ·) (tier.cacheEpisode episode)
  cacheFilm film := watch (.store place (.cacheFilm film) <| .done ·) (tier.cacheFilm film)
  cacheSearch query result :=
    watch (.store place (.cacheSearch query result) <| .done ·) (tier.cacheSearch query result)

/-- The source at a place, with its calls noted. -/
def Source.watched (place : Nat) (source : Source (StateM σ)) : Source (StateM (Watched σ)) where
  sourceId := source.sourceId
  getShow id := watch (.source place (.getShow id) <| .show ·) (source.getShow id)
  getSeason id season :=
    watch (.source place (.getSeason id season) <| .season ·) (source.getSeason id season)
  getFilm id := watch (.source place (.getFilm id) <| .film ·) (source.getFilm id)
  searchMedia query :=
    watch (.source place (.searchMedia query) <| .search ·) (source.searchMedia query)

/-- Stores with their places, with their calls noted. -/
def watchedTiers (placed : List (Tier (StateM σ) × Nat)) : List (Tier (StateM (Watched σ))) :=
  placed.map fun (tier, place) => tier.watched place

/-- Sources with their places, with their calls noted. -/
def watchedSources (placed : List (Source (StateM σ) × Nat)) :
    List (Source (StateM (Watched σ))) :=
  placed.map fun (source, place) => source.watched place

/-- The resolver with the calls of its stores and sources noted. -/
def Resolver.watched (resolver : Resolver (StateM σ)) : Resolver (StateM (Watched σ)) where
  tiers := watchedTiers resolver.tiers.zipIdx
  sources := watchedSources resolver.sources.zipIdx

/-- What a watched store is. -/
theorem mem_watchedTiers {tiers : List (Tier (StateM σ))} {watched : Tier (StateM (Watched σ))}
    (h : watched ∈ watchedTiers tiers.zipIdx) :
    ∃ (place : Nat) (tier : Tier (StateM σ)), tiers[place]? = some tier ∧
      watched = tier.watched place := by
  obtain ⟨⟨tier, place⟩, hmem, rfl⟩ := List.mem_map.mp h
  exact ⟨place, tier, List.mem_zipIdx_iff_getElem?.mp hmem, rfl⟩

/-- What a watched source is. -/
theorem mem_watchedSources {sources : List (Source (StateM σ))}
    {watched : Source (StateM (Watched σ))} (h : watched ∈ watchedSources sources.zipIdx) :
    ∃ (place : Nat) (source : Source (StateM σ)), sources[place]? = some source ∧
      watched = source.watched place := by
  obtain ⟨⟨source, place⟩, hmem, rfl⟩ := List.mem_map.mp h
  exact ⟨place, source, List.mem_zipIdx_iff_getElem?.mp hmem, rfl⟩

/-- From every state of the world the watched effect has the result and the outcome of the effect
itself, and the calls that it notes are as `told` says for the result. -/
def Traces (watched : StateM (Watched σ) α) (effect : StateM σ α)
    (told : α → List Exchange → Prop) : Prop :=
  ∀ world calls, ∃ made, told (effect world).1 made ∧
    watched { world, calls } =
      ((effect world).1, { world := (effect world).2, calls := calls ++ made })

namespace Traces

theorem pure {a : α} {told : α → List Exchange → Prop} (h : told a []) :
    Traces (σ := σ) (Pure.pure a) (Pure.pure a) told :=
  fun _ calls => ⟨[], h, by rw [List.append_nil]; rfl⟩

/-- What two effects in a row note stands in a row. -/
theorem bind {watchedFirst : StateM (Watched σ) β} {first : StateM σ β}
    {watchedNext : β → StateM (Watched σ) α} {next : β → StateM σ α}
    {mid : β → List Exchange → Prop} {told : α → List Exchange → Prop}
    (hfirst : Traces watchedFirst first mid)
    (hnext : ∀ b front, mid b front →
      Traces (watchedNext b) (next b) fun a back => told a (front ++ back)) :
    Traces (watchedFirst >>= watchedNext) (first >>= next) told := by
  intro world calls
  obtain ⟨front, hfront, hrun⟩ := hfirst world calls
  obtain ⟨back, hback, hrest⟩ := hnext _ front hfront (first world).2 (calls ++ front)
  refine ⟨front ++ back, hback, ?_⟩
  have hbind : (watchedFirst >>= watchedNext) { world, calls } =
      watchedNext (watchedFirst { world, calls }).1 (watchedFirst { world, calls }).2 := rfl
  rw [hbind, hrun, hrest, List.append_assoc]
  rfl

theorem mono {watched : StateM (Watched σ) α} {effect : StateM σ α}
    {told weaker : α → List Exchange → Prop} (h : Traces watched effect told)
    (hweaker : ∀ a made, told a made → weaker a made) : Traces watched effect weaker := by
  intro world calls
  obtain ⟨made, htold, hrun⟩ := h world calls
  exact ⟨made, hweaker _ _ htold, hrun⟩

end Traces

/-- A call is noted once, with what came back. -/
theorem traces_watch (note : α → Exchange) (effect : StateM σ α) :
    Traces (watch note effect) effect fun a made => made = [note a] :=
  fun _ _ => ⟨_, rfl, rfl⟩

end MediaShelf
