import Mathlib.Logic.Function.Basic
import MediaShelf.Proofs.Resolver.Keeps
import MediaShelf.Proofs.Resolver.Truth
import MediaShelf.Proofs.Store.Memory

/-!
# Resolvers of a process

The world of a process is its own memory and everything else: stores on disk and catalogs on the
network, which may hold anything, fail, and change while the process runs. All that the process
decides by itself is kept in a ledger: what its memory holds, and what sources have been asked for
successfully.

## Main definitions

* `Process` — the memory of a process, the rest of the world, and the records that sources gave
* `Process.resolver` — a resolver with the memory as its first store
* `Tier.Keyed`, `Source.Keyed` — stores and sources whose records carry the keys they were asked for
* `Request`, `Resolver.transcript` — requests of all kinds, and the replies to look-ups among them
* `Ledger`, `Process.ledger` — what a process knows

## Main results

* `MemoryStore.known?_putShow`, `known?_putSeason`, `known?_putFilm` — a record that is kept is
  known from then on
-/

namespace MediaShelf

variable {ω α : Type}

/-- Whether the reply holds a record. -/
def Reply.isRecord : Reply → Bool
  | .show (.ok (some _)) | .season (.ok (some _)) | .episode (.ok (some _)) |
    .film (.ok (some _)) => true
  | _ => false

/-- Whether a show, a season or a film is looked up, which stores keep as a whole. -/
def Lookup.isWhole : Lookup → Bool
  | .episode _ => false
  | _ => true

/-! ### Requests of all kinds -/

/-- What a resolver may be asked, searches included, with the refresh flag. -/
inductive Request where
  | lookup (lookup : Lookup) (refresh : Bool)
  | search (query : Query) (allowed : List String) (refresh : Bool)

/-- The replies to the look-ups among requests, in order. -/
def Resolver.transcript {m : Type → Type} [Monad m] (resolver : Resolver m) :
    List Request → m (List (Lookup × Reply))
  | [] => pure []
  | .lookup lookup refresh :: requests => do
    let reply ← resolver.reply lookup refresh
    pure ((lookup, reply) :: (← transcript resolver requests))
  | .search query allowed refresh :: requests => do
    let _ ← resolver.searchMedia query allowed refresh
    transcript resolver requests

/-! ### The world of a process -/

/-- The records that a store gives carry the keys they were asked for. -/
structure Tier.Keyed (tier : Tier (StateM ω)) : Prop where
  getShow : ∀ {key world record}, (tier.getShow key world).1 = .ok (some record) →
    record.key = key
  getSeason : ∀ {key world season}, (tier.getSeason key world).1 = .ok (some season) →
    season.key = key
  getFilm : ∀ {key world film}, (tier.getFilm key world).1 = .ok (some film) → film.key = key

/-- The records that a source gives carry its id and the keys they were asked for. -/
structure Source.Keyed (source : Source (StateM ω)) : Prop where
  getShow : ∀ {id world record}, (source.getShow id world).1 = .ok (some record) →
    record.key = ⟨source.sourceId, id⟩
  getSeason : ∀ {id number world season}, (source.getSeason id number world).1 = .ok (some season) →
    season.key = ⟨source.sourceId, id, number⟩
  getFilm : ∀ {id world film}, (source.getFilm id world).1 = .ok (some film) →
    film.key = ⟨source.sourceId, id⟩

/-- A process and the world around it. -/
structure Process (ω : Type) where
  memory : MemoryStore := {}
  /-- All other stores and the sources. -/
  rest : ω
  /-- The look-ups to which a source gave a record, the latest first. -/
  fetched : List Lookup := []

namespace Process

/-- An effect on the memory. -/
def onMemory (effect : StateM MemoryStore α) : StateM (Process ω) α := fun process =>
  let (value, memory) := effect process.memory
  (value, { process with memory })

/-- An effect on the rest of the world. -/
def onRest (effect : StateM ω α) : StateM (Process ω) α := fun process =>
  let (value, rest) := effect process.rest
  (value, { process with rest })

/-- A call of a source that is noted if it gives a record. -/
def noting (lookup : Lookup) (call : StateM ω (Except SourceError (Option α))) :
    StateM (Process ω) (Except SourceError (Option α)) := fun process =>
  let (answer, rest) := call process.rest
  let fetched := match answer with
    | .ok (some _) => lookup :: process.fetched
    | _ => process.fetched
  (answer, { process with rest, fetched })

/-- A source in the rest of the world; the records that it gives are noted. -/
def source (source : Source (StateM ω)) : Source (StateM (Process ω)) where
  sourceId := source.sourceId
  getShow id := noting (.show ⟨source.sourceId, id⟩) (source.getShow id)
  getSeason id number := noting (.season ⟨source.sourceId, id, number⟩) (source.getSeason id number)
  getFilm id := noting (.film ⟨source.sourceId, id⟩) (source.getFilm id)
  searchMedia query := onRest (source.searchMedia query)

/-- The memory as a store. -/
def memoryTier : Tier (StateM (Process ω)) := MemoryStore.tier.lift onMemory

/-- Stores in the rest of the world. -/
def others (later : List (Tier (StateM ω))) : List (Tier (StateM (Process ω))) :=
  later.map (·.lift onRest)

/-- A resolver whose first store is the memory. -/
def resolver (later : List (Tier (StateM ω))) (sources : List (Source (StateM ω))) :
    Resolver (StateM (Process ω)) where
  tiers := memoryTier :: others later
  sources := sources.map source

end Process

/-! ### What a process knows -/

namespace MemoryStore

variable {store : MemoryStore}

/-- The reply that the store by itself leads to for a show, a season or a film. -/
def known? (store : MemoryStore) : Lookup → Option Reply
  | .show key => (store.shows.lookup key).map fun record => .show (.ok (some record))
  | .season key => (store.seasons.lookup key).map fun season => .season (.ok (some season))
  | .film key => (store.films.lookup key).map fun film => .film (.ok (some film))
  | .episode _ => none

theorem known?_putShow (record : Show) : (store.putShow record).known? =
    Function.update store.known? (.show record.key) (some (.show (.ok (some record)))) := by
  funext lookup
  rw [Function.update_apply]
  cases lookup with
  | «show» key =>
    rw [known?, lookup_putShow]
    by_cases hkey : key = record.key <;> simp [hkey, known?]
  | _ => rfl

theorem known?_putSeason (season : Season) : (store.putSeason season).known? =
    Function.update store.known? (.season season.key) (some (.season (.ok (some season)))) := by
  funext lookup
  rw [Function.update_apply]
  cases lookup with
  | season key =>
    rw [known?, seasons_putSeason]
    by_cases hkey : key = season.key <;> simp [hkey, known?]
  | _ => rfl

theorem known?_putFilm (film : Film) : (store.putFilm film).known? =
    Function.update store.known? (.film film.key) (some (.film (.ok (some film)))) := by
  funext lookup
  rw [Function.update_apply]
  cases lookup with
  | film key =>
    rw [known?, lookup_putFilm]
    by_cases hkey : key = film.key <;> simp [hkey, known?]
  | _ => rfl

/-- Episodes are kept beside whole records. -/
theorem known?_putEpisode (episode : Episode) : (store.putEpisode episode).known? =
    store.known? := by
  funext lookup
  cases lookup <;> rfl

/-- So is what searches led to. -/
theorem known?_putSearch (query : Query) (result : SearchResult) :
    (store.putSearch query result).known? = store.known? := by
  funext lookup
  cases lookup <;> rfl

end MemoryStore

/-- What a process knows, and the records that sources gave it. -/
structure Ledger where
  /-- The reply that the memory leads to for a show, a season or a film. -/
  known : Lookup → Option Reply
  /-- The look-ups to which a source gave a record, the latest first. -/
  fetched : List Lookup

/-- What a process knows, and the records that sources gave it. -/
def Process.ledger (process : Process ω) : Ledger := ⟨process.memory.known?, process.fetched⟩

namespace Ledger

/-- The ledger once a reply has become known. -/
def learn (ledger : Ledger) (lookup : Lookup) (reply : Reply) : Ledger :=
  { ledger with known := Function.update ledger.known lookup (some reply) }

/-- The ledger once a source has given a record. -/
def fetch (ledger : Ledger) (lookup : Lookup) : Ledger :=
  { ledger with fetched := lookup :: ledger.fetched }

end Ledger

end MediaShelf
