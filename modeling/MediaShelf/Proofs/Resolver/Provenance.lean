import MediaShelf.Proofs.Resolver.Failure
import MediaShelf.Proofs.Resolver.Process

/-!
# Where refreshed records come from

With `refresh` a resolver reads its first store alone. That store starts empty, so whatever it gives
was put there by an earlier request of the same run, which had it from a source or, without
`refresh`, from one of the stores behind the first. Both ways are open: a record that an ordinary
request has copied from a store on disk is given to later requests with `refresh`.

## Main definitions

* `Record`, `Record.PartOf` — records of all kinds; an entry is a part of its season
* `Exchange.FromSource`, `Exchange.FromLater` — calls that supply a record
* `Turn`, `Resolver.turns` — requests in order, each with its reply and its calls
* `MemoryStore.Holds` — the records that a store keeps
* `Accounted` — what the memory of a process holds was supplied before

## Main results

* `Leads.reply_accounted` — what a request gives, and what it leaves in memory, was supplied
* `turns_accounted` — so are all records of a run
* `supplied_of_refresh` — where the record of a request with `refresh` comes from
-/

namespace MediaShelf

variable {σ ω α : Type}

/-! ### Records and who supplies them -/

/-- A record of any kind. -/
inductive Record where
  | show (record : Show)
  | season (season : Season)
  | episode (episode : Episode)
  | film (film : Film)
  deriving DecidableEq, Repr

/-- The record is the other one, or an entry of it. -/
inductive Record.PartOf : Record → Record → Prop
  | whole (record : Record) : PartOf record record
  | entry {episode : Episode} {season : Season} :
      episode ∈ season.episodes ++ season.specials → PartOf (.episode episode) (.season season)

/-- The record in a reply. -/
def Reply.record? : Reply → Option Record
  | .show (.ok (some value)) => some (.show value)
  | .season (.ok (some value)) => some (.season value)
  | .episode (.ok (some value)) => some (.episode value)
  | .film (.ok (some value)) => some (.film value)
  | _ => none

/-- The record in the answer of a store. -/
def Tier.Answer.record? : Tier.Answer → Option Record
  | .show (.ok (some value)) => some (.show value)
  | .season (.ok (some value)) => some (.season value)
  | .episode (.ok (some value)) => some (.episode value)
  | .film (.ok (some value)) => some (.film value)
  | _ => none

/-- The record in the answer of a source. -/
def Source.Answer.record? : Source.Answer → Option Record
  | .show (.ok (some value)) => some (.show value)
  | .season (.ok (some value)) => some (.season value)
  | .film (.ok (some value)) => some (.film value)
  | _ => none

namespace Exchange

/-- Whether a store behind the first one is read. -/
def readsLater : Exchange → Bool
  | .store place call _ => place != 0 && !call.isWrite
  | .source .. => false

/-- A source gives the record, or the season that it is an entry of. -/
def FromSource (record : Record) : Exchange → Prop
  | .source _ _ answer => ∃ whole, answer.record? = some whole ∧ record.PartOf whole
  | .store .. => False

/-- A store behind the first one is read and gives the record, or the season that it is an entry
of. -/
def FromLater (record : Record) : Exchange → Prop
  | .store place call answer => place ≠ 0 ∧ call.isWrite = false ∧
      ∃ whole, answer.record? = some whole ∧ record.PartOf whole
  | .source .. => False

end Exchange

/-- One of the calls has brought the record into the process. -/
def Supplied (calls : List Exchange) (record : Record) : Prop :=
  ∃ exchange ∈ calls, exchange.FromSource record ∨ exchange.FromLater record

theorem Record.PartOf.trans {piece middle whole : Record} (h : piece.PartOf middle)
    (h' : middle.PartOf whole) : piece.PartOf whole := by
  cases h with
  | whole => exact h'
  | entry hmem =>
    cases h'
    exact .entry hmem

namespace Exchange

variable {exchange : Exchange} {piece whole : Record}

theorem FromSource.part (h : exchange.FromSource whole) (hpart : piece.PartOf whole) :
    exchange.FromSource piece := by
  cases exchange with
  | store _ _ _ => exact h
  | source _ _ _ =>
    obtain ⟨given, hgiven, hwhole⟩ := h
    exact ⟨given, hgiven, hpart.trans hwhole⟩

theorem FromLater.part (h : exchange.FromLater whole) (hpart : piece.PartOf whole) :
    exchange.FromLater piece := by
  cases exchange with
  | source _ _ _ => exact h
  | store _ _ _ =>
    obtain ⟨hplace, hread, given, hgiven, hwhole⟩ := h
    exact ⟨hplace, hread, given, hgiven, hpart.trans hwhole⟩

theorem FromLater.readsLater (h : exchange.FromLater whole) : exchange.readsLater := by
  cases exchange with
  | source _ _ _ => cases h
  | store _ _ _ =>
    obtain ⟨hplace, hread, -⟩ := h
    simp [Exchange.readsLater, hplace, hread]

end Exchange

namespace Supplied

variable {calls more : List Exchange} {piece whole : Record}

/-- What has been supplied once stays supplied. -/
theorem append (h : Supplied calls whole) : Supplied (calls ++ more) whole := by
  obtain ⟨exchange, hmem, hsupply⟩ := h
  exact ⟨exchange, List.mem_append_left _ hmem, hsupply⟩

/-- With a season its entries are supplied. -/
theorem part (h : Supplied calls whole) (hpart : piece.PartOf whole) : Supplied calls piece := by
  obtain ⟨exchange, hmem, hsupply⟩ := h
  exact ⟨exchange, hmem, hsupply.imp (·.part hpart) (·.part hpart)⟩

end Supplied

/-! ### Runs of requests -/

/-- A request with its reply and the calls that were made for it. -/
structure Turn where
  lookup : Lookup
  refresh : Bool
  reply : Reply
  calls : List Exchange

namespace Resolver

/-- One request. -/
def turn (resolver : Resolver (StateM σ)) (lookup : Lookup) (refresh : Bool) : StateM σ Turn :=
  fun world =>
    let (reply, after) := resolver.watched.reply lookup refresh { world }
    ({ lookup, refresh, reply, calls := after.calls }, after.world)

/-- Requests in order, each with its refresh flag. -/
def turns (resolver : Resolver (StateM σ)) : List (Lookup × Bool) → StateM σ (List Turn)
  | [] => return []
  | (lookup, refresh) :: requests => do
    let first ← resolver.turn lookup refresh
    return first :: (← turns resolver requests)

variable (resolver : Resolver (StateM σ))

/-- Noting its calls does not change a request. -/
theorem traces_reply (lookup : Lookup) (refresh : Bool) :
    Traces (resolver.watched.reply lookup refresh) (resolver.reply lookup refresh)
      fun _ _ => True := by
  cases lookup with
  | season key =>
    exact (resolver.traces_getSeason_quiet refresh key).bind fun _ _ _ => .pure trivial
  | episode key =>
    exact (resolver.traces_getEpisode_quiet refresh key).bind fun _ _ _ => .pure trivial
  | «show» key =>
    refine Traces.bind (traces_resolve (.show key) resolver refresh ?_ ?_ ?_)
      fun _ _ _ => .pure trivial
    · exact fun place _ => traces_watch (.store place (.getShow key) <| .show ·) _
    · exact fun place _ => traces_watch (.source place (.getShow key.id) <| .show ·) _
    · exact fun place _ record => traces_write place (.cacheShow record) _
  | film key =>
    refine Traces.bind (traces_resolve (.film key) resolver refresh ?_ ?_ ?_)
      fun _ _ _ => .pure trivial
    · exact fun place _ => traces_watch (.store place (.getFilm key) <| .film ·) _
    · exact fun place _ => traces_watch (.source place (.getFilm key.id) <| .film ·) _
    · exact fun place _ film => traces_write place (.cacheFilm film) _

/-- The turns of a run are its requests, with the replies that the resolver gives. -/
theorem turns_eq (requests : List (Lookup × Bool)) (world : σ) :
    (resolver.turns requests world).1.map (fun turn => (turn.lookup, turn.refresh)) = requests ∧
      (resolver.turns requests world).1.map (·.reply) = (resolver.replies requests world).1 := by
  induction requests generalizing world with
  | nil => exact ⟨rfl, rfl⟩
  | cons request requests ih =>
    obtain ⟨lookup, refresh⟩ := request
    obtain ⟨calls, -, hrun⟩ := resolver.traces_reply lookup refresh world []
    have hturn : resolver.turn lookup refresh world =
        ({ lookup, refresh, reply := (resolver.reply lookup refresh world).1, calls },
          (resolver.reply lookup refresh world).2) := by
      rw [turn, hrun]
      rfl
    have hturns : (resolver.turns ((lookup, refresh) :: requests) world).1 =
        (resolver.turn lookup refresh world).1 ::
          (resolver.turns requests (resolver.turn lookup refresh world).2).1 := rfl
    obtain ⟨hrequests, hreplies⟩ := ih (resolver.reply lookup refresh world).2
    rw [hturns, hturn, List.map_cons, List.map_cons, hrequests, hreplies]
    exact ⟨rfl, rfl⟩

end Resolver

/-! ### The memory -/

namespace MemoryStore

/-- The store keeps the record, if only as an entry of a season. -/
inductive Holds (store : MemoryStore) : Record → Prop
  | show {key : CatalogKey} {record : Show} :
      store.shows.lookup key = some record → Holds store (.show record)
  | season {key : SeasonKey} {season : Season} :
      store.seasons.lookup key = some season → Holds store (.season season)
  | episode {key : EpisodeKey} {episode : Episode} :
      store.episodes.lookup key = some episode → Holds store (.episode episode)
  | film {key : CatalogKey} {film : Film} :
      store.films.lookup key = some film → Holds store (.film film)
  | entry {key : SeasonKey} {season : Season} {episode : Episode} :
      store.seasons.lookup key = some season → episode ∈ season.episodes ++ season.specials →
      Holds store (.episode episode)

variable {store : MemoryStore} {record : Record}

/-- The empty store holds nothing. -/
theorem not_holds_empty : ¬ Holds {} record := by
  rintro (h | h | h | h | ⟨h, -⟩) <;> cases h

/-- An episode is found if it is kept by itself or as an entry of its season. -/
theorem holds_of_findEpisode? {key : EpisodeKey} {episode : Episode}
    (h : store.findEpisode? key = some episode) : store.Holds (.episode episode) := by
  rcases Option.or_eq_some_iff.mp h with hown | ⟨-, hseason⟩
  · exact .episode hown
  · obtain ⟨season, hkept, hnumbered⟩ := Option.bind_eq_some_iff.mp hseason
    exact .entry hkept (Season.mem_of_numbered? hnumbered).1

/-- What is there after a write was there before or has been written, if this holds of the records
of each kind. -/
theorem Holds.of_write {next : MemoryStore} {written : Record} (h : next.Holds record)
    (hshows : ∀ {key record}, next.shows.lookup key = some record →
      store.shows.lookup key = some record ∨ Record.PartOf (.show record) written)
    (hseasons : ∀ {key season}, next.seasons.lookup key = some season →
      store.seasons.lookup key = some season ∨ Record.PartOf (.season season) written)
    (hepisodes : ∀ {key episode}, next.episodes.lookup key = some episode →
      store.episodes.lookup key = some episode ∨ Record.PartOf (.episode episode) written)
    (hfilms : ∀ {key film}, next.films.lookup key = some film →
      store.films.lookup key = some film ∨ Record.PartOf (.film film) written) :
    store.Holds record ∨ record.PartOf written := by
  cases h with
  | «show» hkept => exact (hshows hkept).imp_left .show
  | season hkept => exact (hseasons hkept).imp_left .season
  | episode hkept => exact (hepisodes hkept).imp_left .episode
  | film hkept => exact (hfilms hkept).imp_left .film
  | entry hkept hmem =>
    exact (hseasons hkept).imp (.entry · hmem) fun hpart => (Record.PartOf.entry hmem).trans hpart

theorem holds_putShow {shown : Show} (h : (store.putShow shown).Holds record) :
    store.Holds record ∨ record.PartOf (.show shown) := by
  refine h.of_write (fun hkept => ?_) .inl .inl .inl
  rw [lookup_putShow] at hkept
  split at hkept
  · cases hkept
    exact .inr (.whole _)
  · exact .inl hkept

theorem holds_putFilm {film : Film} (h : (store.putFilm film).Holds record) :
    store.Holds record ∨ record.PartOf (.film film) := by
  refine h.of_write .inl .inl .inl fun hkept => ?_
  rw [lookup_putFilm] at hkept
  split at hkept
  · cases hkept
    exact .inr (.whole _)
  · exact .inl hkept

theorem holds_putEpisode {episode : Episode} (h : (store.putEpisode episode).Holds record) :
    store.Holds record ∨ record.PartOf (.episode episode) := by
  refine h.of_write .inl .inl (fun hkept => ?_) .inl
  rw [lookup_putEpisode] at hkept
  split at hkept
  · cases hkept
    exact .inr (.whole _)
  · exact .inl hkept

theorem holds_putSeason {season : Season} (h : (store.putSeason season).Holds record) :
    store.Holds record ∨ record.PartOf (.season season) := by
  refine h.of_write .inl (fun hkept => ?_) (fun hkept => ?_) .inl
  · rw [seasons_putSeason] at hkept
    split at hkept
    · cases hkept
      exact .inr (.whole _)
    · exact .inl hkept
  · -- a new season drops episodes and adds none
    rw [episodes_putSeason] at hkept
    split at hkept
    · cases hkept
    · exact .inl hkept

end MemoryStore

/-! ### Single calls -/

open Process

/-- All that the memory holds was supplied before the request, by the calls in `base`, or by one of
its own calls so far; and with `refresh` the request has not read a store behind the first. -/
structure Accounted (base : List Exchange) (refresh : Bool) (s : Watched (Process ω)) : Prop where
  held : ∀ record, s.world.memory.Holds record → Supplied (base ++ s.calls) record
  bypassed : refresh → ∀ exchange ∈ s.calls, exchange.readsLater = false

/-- Everything is accounted for, and the record was supplied. -/
def Told (base : List Exchange) (refresh : Bool) (record : Record) (s : Watched (Process ω)) :
    Prop :=
  Accounted base refresh s ∧ Supplied (base ++ s.calls) record

variable {base : List Exchange} {refresh : Bool}

/-- A call may bring into memory what was supplied before. -/
theorem Accounted.note {s : Watched (Process ω)} (h : Accounted base refresh s)
    {world : Process ω} (exchange : Exchange)
    (hmemory : ∀ record, world.memory.Holds record →
      s.world.memory.Holds record ∨ Supplied (base ++ s.calls) record)
    (hexchange : refresh → exchange.readsLater = false) :
    Accounted base refresh { world, calls := s.calls ++ [exchange] } where
  held record hrecord := by
    have hbefore : Supplied (base ++ s.calls) record :=
      (hmemory record hrecord).elim (h.held record) fun hsupplied => hsupplied
    rw [← List.append_assoc]
    exact hbefore.append
  bypassed hrefresh other hother := by
    rcases List.mem_append.mp hother with hother | hother
    · exact h.bypassed hrefresh other hother
    · rw [List.mem_singleton.mp hother]
      exact hexchange hrefresh

/-- The call may itself supply a record. -/
theorem Accounted.supply {s : Watched (Process ω)} {world : Process ω} {exchange : Exchange}
    {record : Record} (h : Accounted base refresh { world, calls := s.calls ++ [exchange] })
    (hsupply : exchange.FromSource record ∨ exchange.FromLater record) :
    Told base refresh record { world, calls := s.calls ++ [exchange] } :=
  ⟨h, exchange, List.mem_append_right _ (List.mem_append_right _ List.mem_cons_self), hsupply⟩

/-- A write may bring into memory what is told of. -/
theorem Told.note {s : Watched (Process ω)} {record : Record} (h : Told base refresh record s)
    {world : Process ω} (exchange : Exchange)
    (hmemory : ∀ other, world.memory.Holds other →
      s.world.memory.Holds other ∨ other.PartOf record)
    (hexchange : refresh → exchange.readsLater = false) :
    Told base refresh record { world, calls := s.calls ++ [exchange] } := by
  obtain ⟨haccounted, hsupplied⟩ := h
  refine ⟨haccounted.note exchange (fun other hother => ?_) hexchange, ?_⟩
  · exact (hmemory other hother).imp_right hsupplied.part
  · rw [← List.append_assoc]
    exact hsupplied.append

namespace Leads

variable {place : Nat} (toRecord : α → Record)

/-- What the memory gives was supplied before it came there. -/
theorem readMemory (call : Tier.Call) (given : Except StoreError (Option α) → Tier.Answer)
    {read : MemoryStore → Option α}
    (hread : ∀ store value, read store = some value → store.Holds (toRecord value)) :
    Leads (Accounted base refresh : Watched (Process ω) → Prop)
      (watch (.store 0 call <| given ·) (onMemory (MemoryStore.reading read)))
      (AfterRead (fun value => Told base refresh (toRecord value)) (Accounted base refresh)) := by
  intro s h
  have hnext : Accounted base refresh
      { s with calls := s.calls ++ [.store 0 call (given (.ok (read s.world.memory)))] } :=
    h.note _ (fun _ => .inl) fun _ => rfl
  show AfterRead _ _ (.ok (read s.world.memory)) _
  cases hfound : read s.world.memory with
  | none => exact hnext
  | some value => exact ⟨hnext, hnext.held _ (hread s.world.memory value hfound)⟩

/-- What another store gives is supplied by it. -/
theorem readLater (hplace : place ≠ 0) {call : Tier.Call} (hcall : call.isWrite = false)
    (given : Except StoreError (Option α) → Tier.Answer)
    (hgiven : ∀ value, (given (.ok (some value))).record? = some (toRecord value))
    (effect : StateM ω (Except StoreError (Option α))) :
    Leads (Accounted base false : Watched (Process ω) → Prop)
      (watch (.store place call <| given ·) (onRest effect))
      (AfterRead (fun value => Told base false (toRecord value)) (Accounted base false)) := by
  intro s h
  have hnext (exchange : Exchange) (rest : ω) : Accounted base false
      { world := { s.world with rest }, calls := s.calls ++ [exchange] } :=
    h.note _ (fun _ => .inl) nofun
  unfold watch onRest
  generalize effect s.world.rest = result
  obtain ⟨answer, rest⟩ := result
  match answer with
  | .error _ => exact hnext _ rest
  | .ok none => exact hnext _ rest
  | .ok (some value) =>
    exact (hnext _ rest).supply (.inr ⟨hplace, hcall, toRecord value, hgiven value, .whole _⟩)

/-- So is what a source gives. -/
theorem askSource (lookup : Lookup) (call : Source.Call)
    (given : Except SourceError (Option α) → Source.Answer)
    (hgiven : ∀ value, (given (.ok (some value))).record? = some (toRecord value))
    (effect : StateM ω (Except SourceError (Option α))) :
    Leads (Accounted base refresh : Watched (Process ω) → Prop)
      (watch (.source place call <| given ·) (noting lookup effect))
      (AfterFetch (fun value => Told base refresh (toRecord value))
        fun _ => Accounted base refresh) := by
  intro s h
  have hnext (exchange : Exchange) (hexchange : exchange.readsLater = false) (rest : ω)
      (fetched : List Lookup) : Accounted base refresh
        { world := { s.world with rest, fetched }, calls := s.calls ++ [exchange] } :=
    h.note _ (fun _ => .inl) fun _ => hexchange
  unfold watch noting
  generalize effect s.world.rest = result
  obtain ⟨answer, rest⟩ := result
  match answer with
  | .error _ => exact hnext _ rfl rest _
  | .ok none => exact hnext _ rfl rest _
  | .ok (some value) =>
    exact (hnext _ rfl rest _).supply (.inl ⟨toRecord value, hgiven value, .whole _⟩)

end Leads

namespace Keeps

variable {record : Record}

/-- A record that was supplied may be written into the memory. -/
theorem writeMemory (call : Tier.Call) {write : MemoryStore → MemoryStore}
    (hwrite : ∀ store other, (write store).Holds other → store.Holds other ∨ other.PartOf record) :
    Keeps (Told base refresh record : Watched (Process ω) → Prop)
      (watch (.store 0 call <| .done ·) (onMemory (MemoryStore.writing write))) fun _ => True :=
  fun s h => ⟨trivial, h.note _ (hwrite s.world.memory) fun _ => rfl⟩

/-- Writing into another store leaves the memory as it is. -/
theorem writeLater (place : Nat) {call : Tier.Call} (hcall : call.isWrite)
    (effect : StateM ω (Except StoreError Unit)) :
    Keeps (Told base refresh record : Watched (Process ω) → Prop)
      (watch (.store place call <| .done ·) (onRest effect)) fun _ => True :=
  fun _ h => ⟨trivial, h.note _ (fun _ => .inl) fun _ => by simp [Exchange.readsLater, hcall]⟩

end Keeps

/-! ### Requests -/

section Requests

variable {later : List (Tier (StateM ω))} {sources : List (Source (StateM ω))}

/-- What holds of the memory and, unless they are passed over, of the other stores at their places,
holds of the stores that are read. -/
theorem forall_readable {motive : Tier (StateM (Watched (Process ω))) → Prop}
    (hmemory : motive (memoryTier.watched 0))
    (hrest : refresh = false → ∀ place, place ≠ 0 → ∀ tier : Tier (StateM ω),
      motive ((tier.lift onRest).watched place)) :
    ∀ tier ∈ (resolver later sources).watched.readable refresh, motive tier := by
  have hothers : refresh = false →
      ∀ tier ∈ watchedTiers ((others later).zipIdx 1), motive tier := by
    intro hrefresh tier htier
    obtain ⟨⟨tier, place⟩, hmem, rfl⟩ := List.mem_map.mp htier
    obtain ⟨hplace, -, hget⟩ := List.mem_zipIdx hmem
    obtain ⟨tier', -, rfl⟩ := List.mem_map.mp (hget ▸ List.getElem_mem _)
    exact hrest hrefresh place (Nat.ne_of_gt hplace) tier'
  intro tier htier
  -- with `refresh` the memory is the only store that is read
  cases refresh with
  | true =>
    obtain rfl := List.mem_singleton.mp htier
    exact hmemory
  | false =>
    rcases List.mem_cons.mp htier with rfl | htier
    · exact hmemory
    · exact hothers rfl tier htier

/-- What holds of the memory and of all other stores at their places holds of all stores. -/
theorem forall_watched {motive : Tier (StateM (Watched (Process ω))) → Prop}
    (hmemory : motive (memoryTier.watched 0))
    (hrest : ∀ place, ∀ tier : Tier (StateM ω), motive ((tier.lift onRest).watched place)) :
    ∀ tier ∈ (resolver later sources).watched.tiers, motive tier := by
  -- without `refresh` all stores are read
  have hall : ∀ tier ∈ (resolver later sources).watched.readable false, motive tier :=
    forall_readable hmemory fun _ place _ tier => hrest place tier
  exact hall

/-- What holds of all sources at their places. -/
theorem forall_watchedSources {motive : Source (StateM (Watched (Process ω))) → Prop}
    (h : ∀ place, ∀ source : Source (StateM ω), motive ((Process.source source).watched place)) :
    ∀ source ∈ (resolver later sources).watched.sources, motive source := by
  intro watched hwatched
  obtain ⟨place, noted, hget, rfl⟩ := mem_watchedSources hwatched
  obtain ⟨source, -, rfl⟩ := List.mem_map.mp (List.mem_of_getElem? hget)
  exact h place source

namespace Leads

theorem getShow (key : CatalogKey) :
    Leads (Accounted base refresh) ((resolver later sources).watched.getShow key refresh)
      (AfterFetch (fun record => Told base refresh (.show record))
        fun _ => Accounted base refresh) := by
  refine .resolveTold (forall_readable ?_ ?_) (forall_watchedSources ?_) (forall_watched ?_ ?_)
  · exact .readMemory .show (.getShow key) .show fun _ _ hfound => .show hfound
  · rintro rfl place hplace tier
    exact .readLater .show hplace rfl .show (fun _ => rfl) _
  · exact fun place source => .askSource .show _ (.getShow key.id) .show (fun _ => rfl) _
  · exact fun record => .writeMemory (.cacheShow record) fun _ _ => MemoryStore.holds_putShow
  · exact fun place tier record => .writeLater place rfl _

theorem getFilm (key : CatalogKey) :
    Leads (Accounted base refresh) ((resolver later sources).watched.getFilm key refresh)
      (AfterFetch (fun film => Told base refresh (.film film))
        fun _ => Accounted base refresh) := by
  refine .resolveTold (forall_readable ?_ ?_) (forall_watchedSources ?_) (forall_watched ?_ ?_)
  · exact .readMemory .film (.getFilm key) .film fun _ _ hfound => .film hfound
  · rintro rfl place hplace tier
    exact .readLater .film hplace rfl .film (fun _ => rfl) _
  · exact fun place source => .askSource .film _ (.getFilm key.id) .film (fun _ => rfl) _
  · exact fun film => .writeMemory (.cacheFilm film) fun _ _ => MemoryStore.holds_putFilm
  · exact fun place tier film => .writeLater place rfl _

/-- The entries that are written with a season are parts of it. -/
theorem getSeason (key : SeasonKey) :
    Leads (Accounted base refresh) ((resolver later sources).watched.getSeason key refresh)
      (AfterFetch (fun season => Told base refresh (.season season))
        fun _ => Accounted base refresh) := by
  refine .resolveTold (forall_readable ?_ ?_) (forall_watchedSources ?_) (forall_watched ?_ ?_)
  · exact .readMemory .season (.getSeason key) .season fun _ _ hfound => .season hfound
  · rintro rfl place hplace tier
    exact .readLater .season hplace rfl .season (fun _ => rfl) _
  · exact fun place source =>
      .askSource .season _ (.getSeason key.showId key.season) .season (fun _ => rfl) _
  · intro season
    refine .writeSeason ?_ fun episode hepisode => ?_
    · exact .writeMemory (.cacheSeason season) fun _ _ => MemoryStore.holds_putSeason
    · have hentry : ∀ (store : MemoryStore) other, (store.putEpisode episode).Holds other →
          store.Holds other ∨ other.PartOf (.season season) := fun store other hheld =>
        (MemoryStore.holds_putEpisode hheld).imp_right (·.trans (.entry hepisode))
      exact .writeMemory (.cacheEpisode episode) hentry
  · intro place tier season
    exact .writeSeason (.writeLater place rfl _) fun _ _ => .writeLater place rfl _

/-- An episode that no store has is an entry of its season. -/
theorem getEpisode (key : EpisodeKey) :
    Leads (Accounted base refresh) ((resolver later sources).watched.getEpisode key refresh)
      (AfterFetch (fun episode => Told base refresh (.episode episode))
        fun _ => Accounted base refresh) := by
  have hread : ∀ tier ∈ (resolver later sources).watched.readable refresh,
      Leads (Accounted base refresh) (tier.getEpisode key)
        (AfterRead (fun episode => Told base refresh (.episode episode))
          (Accounted base refresh)) := by
    refine forall_readable ?_ ?_
    · exact .readMemory .episode (.getEpisode key) .episode
        fun _ _ hfound => MemoryStore.holds_of_findEpisode? hfound
    · rintro rfl place hplace tier
      exact .readLater .episode hplace rfl .episode (fun _ => rfl) _
  have hwrite : ∀ tier ∈ (resolver later sources).watched.tiers, ∀ episode,
      Keeps (Told base refresh (.episode episode)) (tier.cacheEpisode episode) fun _ => True := by
    refine forall_watched ?_ fun place tier episode => .writeLater place rfl _
    intro episode
    exact .writeMemory (.cacheEpisode episode) fun _ _ => MemoryStore.holds_putEpisode
  refine (Leads.readTiers hread fun tier htier => hwrite tier (Keeps.mem_tiers htier)).bind ?_
  intro found
  -- the episode is one that a store gave, or else an entry of the season
  match found with
  | some episode => exact .pure fun _ h => h
  | none =>
    refine (getSeason key.season).bind fun answer => .pure fun s h => ?_
    match answer with
    | .error _ => exact h
    | .ok none => exact h
    | .ok (some season) =>
      obtain ⟨haccounted, hsupplied⟩ := h
      show AfterFetch _ _ (.ok (season.numbered? key.special key.number)) s
      cases hentry : season.numbered? key.special key.number with
      | none => exact haccounted
      | some episode =>
        exact ⟨haccounted, hsupplied.part (.entry (Season.mem_of_numbered? hentry).1)⟩

/-- A reply gives the record of the answer that it is made of. -/
theorem reply (toRecord : α → Record) {toReply : Except SourceError (Option α) → Reply}
    {effect : StateM (Watched (Process ω)) (Except SourceError (Option α))}
    (h : Leads (Accounted base refresh) effect
      (AfterFetch (fun value => Told base refresh (toRecord value))
        fun _ => Accounted base refresh))
    (hsome : ∀ value, (toReply (.ok (some value))).record? = some (toRecord value))
    (hnone : (toReply (.ok none)).record? = none)
    (herror : ∀ e, (toReply (.error e)).record? = none) :
    Leads (Accounted base refresh) (do return toReply (← effect)) fun reply s =>
      Accounted base refresh s ∧
        ∀ record, reply.record? = some record → Supplied (base ++ s.calls) record := by
  refine h.bind fun answer => .pure fun s htold => ?_
  match answer with
  | .error e => exact ⟨htold, by simp [herror]⟩
  | .ok none => exact ⟨htold, by simp [hnone]⟩
  | .ok (some value) =>
    obtain ⟨haccounted, hsupplied⟩ := htold
    exact ⟨haccounted, by simpa [hsome] using hsupplied⟩

variable (later sources) in
/-- What a request gives was supplied, and so was all that is in memory after it. -/
theorem reply_accounted (lookup : Lookup) :
    Leads (Accounted base refresh) ((resolver later sources).watched.reply lookup refresh)
      fun reply s => Accounted base refresh s ∧
        ∀ record, reply.record? = some record → Supplied (base ++ s.calls) record := by
  cases lookup with
  | «show» key => exact (getShow key).reply .show (fun _ => rfl) rfl fun _ => rfl
  | season key => exact (getSeason key).reply .season (fun _ => rfl) rfl fun _ => rfl
  | episode key => exact (getEpisode key).reply .episode (fun _ => rfl) rfl fun _ => rfl
  | film key => exact (getFilm key).reply .film (fun _ => rfl) rfl fun _ => rfl

end Leads

/-! ### Runs -/

/-- The calls of several requests in order. -/
def callsOf (turns : List Turn) : List Exchange := turns.flatMap (·.calls)

variable (later sources) in
/-- One request adds its own calls to those that supply records. -/
theorem turn_accounted (lookup : Lookup) (refresh : Bool) {before : List Turn} {process : Process ω}
    (hprocess : ∀ record, process.memory.Holds record → Supplied (callsOf before) record) :
    let made := (resolver later sources).turn lookup refresh process
    (refresh → ∀ exchange ∈ made.1.calls, exchange.readsLater = false) ∧
      (∀ record, made.1.reply.record? = some record →
        Supplied (callsOf (before ++ [made.1])) record) ∧
      ∀ record, made.2.memory.Holds record → Supplied (callsOf (before ++ [made.1])) record := by
  intro made
  have hstart : Accounted (callsOf before) refresh { world := process } :=
    ⟨by simpa using hprocess, by simp⟩
  obtain ⟨hafter, hreply⟩ := Leads.reply_accounted later sources lookup _ hstart
  have hcalls : callsOf (before ++ [made.1]) = callsOf before ++ made.1.calls := by
    simp [callsOf]
  -- the calls before the request and its own are those that `Accounted` speaks of
  rw [hcalls]
  exact ⟨hafter.bypassed, hreply, hafter.held⟩

/-- Every record of a run was supplied by a call of the request itself or of one before it, and no
request with `refresh` has read a store behind the first. -/
theorem turns_accounted (requests : List (Lookup × Bool)) {before : List Turn}
    {process : Process ω}
    (hprocess : ∀ record, process.memory.Holds record → Supplied (callsOf before) record)
    {front back : List Turn} {turn : Turn}
    (hturns : ((resolver later sources).turns requests process).1 = front ++ turn :: back) :
    (turn.refresh → ∀ exchange ∈ turn.calls, exchange.readsLater = false) ∧
      ∀ record, turn.reply.record? = some record →
        Supplied (callsOf (before ++ front ++ [turn])) record := by
  -- the requests that were made join those before, so the process varies with them
  induction requests generalizing before process front with
  | nil =>
    have hnone : [] = front ++ turn :: back := hturns
    simp at hnone
  | cons request requests ih =>
    obtain ⟨lookup, refresh⟩ := request
    obtain ⟨hbypassed, hreply, hafter⟩ := turn_accounted later sources lookup refresh hprocess
    have hsplit : ((resolver later sources).turn lookup refresh process).1 ::
        ((resolver later sources).turns requests
          ((resolver later sources).turn lookup refresh process).2).1 =
        front ++ turn :: back := hturns
    cases front with
    | nil =>
      obtain ⟨rfl, -⟩ := List.cons.inj hsplit
      rw [List.append_nil]
      exact ⟨hbypassed, hreply⟩
    | cons first front =>
      obtain ⟨rfl, hrest⟩ := List.cons.inj hsplit
      rw [List.append_cons before]
      exact ih hafter hrest

end Requests

/-- A record that a request with `refresh` gives was supplied in the same run, by a source or, to a
request without `refresh`, by a store behind the first; the request itself reads no such store. So
only copies that ordinary requests have made can keep records of a durable store in use. -/
theorem supplied_of_refresh (later : List (Tier (StateM ω))) (sources : List (Source (StateM ω)))
    (requests : List (Lookup × Bool)) (rest : ω) :
    let turns := ((Process.resolver later sources).turns requests { rest }).1
    turns.map (·.reply) = ((Process.resolver later sources).replies requests { rest }).1 ∧
      turns.map (fun turn => (turn.lookup, turn.refresh)) = requests ∧
      ∀ front turn back, turns = front ++ turn :: back → turn.refresh →
        (∀ exchange ∈ turn.calls, exchange.readsLater = false) ∧
        ∀ record, turn.reply.record? = some record →
          (∃ earlier ∈ front ++ [turn], ∃ exchange ∈ earlier.calls, exchange.FromSource record) ∨
          ∃ earlier ∈ front, earlier.refresh = false ∧
            ∃ exchange ∈ earlier.calls, exchange.FromLater record := by
  intro turns
  obtain ⟨hrequests, hreplies⟩ := (Process.resolver later sources).turns_eq requests { rest }
  have hempty : ∀ record, ({ rest } : Process ω).memory.Holds record →
      Supplied (callsOf []) record :=
    fun record hheld => absurd hheld MemoryStore.not_holds_empty
  refine ⟨hreplies, hrequests, fun front turn back hturns hrefresh => ?_⟩
  obtain ⟨hbypassed, hsupplied⟩ := turns_accounted requests hempty hturns
  refine ⟨hbypassed hrefresh, fun record hrecord => ?_⟩
  obtain ⟨exchange, hexchange, hsupply⟩ := hsupplied record hrecord
  obtain ⟨earlier, hearlier, hcall⟩ := List.mem_flatMap.mp hexchange
  rcases hsupply with hsource | hlater
  · exact .inl ⟨earlier, hearlier, exchange, hcall, hsource⟩
  · -- a request with `refresh` reads no later store, so it was an ordinary one before
    have hread : exchange.readsLater = true := hlater.readsLater
    rcases List.mem_append.mp hearlier with hfront | hsame
    · obtain ⟨start, between, rfl⟩ := List.append_of_mem hfront
      rw [List.append_assoc] at hturns
      obtain ⟨hnone, -⟩ := turns_accounted requests hempty hturns
      refine .inr ⟨earlier, hfront, ?_, exchange, hcall, hlater⟩
      cases hrefreshed : earlier.refresh with
      | false => rfl
      | true => simp [hnone hrefreshed exchange hcall] at hread
    · obtain rfl := List.mem_singleton.mp hsame
      simp [hbypassed hrefresh exchange hcall] at hread

/-- A show under a name. -/
def heroes (name : String) : Show := { sourceId := "tvmaze", showId := "82", name }

/-- An episode of it under a title. -/
def heroesEpisode (title : String) : Episode where
  sourceId := "tvmaze"
  showId := "82"
  seasonNumber := 1
  episodeNumbers := [1]
  title := title

/-- The season with this episode alone. -/
def heroesSeason (title : String) : Season where
  sourceId := "tvmaze"
  showId := "82"
  seasonNumber := 1
  episodes := [heroesEpisode title]
  specials := []

/-- A catalog that knows the show as it is now. -/
def heroesCatalog : Source.Answers where
  getShow _ := .ok (some (heroes "Heroes"))
  getSeason _ _ := .ok (some (heroesSeason "Genesis"))
  getFilm _ := .ok none
  searchMedia _ := .ok none

/-- A store that knows the show as it once was. -/
def heroesOutdated : MemoryStore :=
  (({} : MemoryStore).putShow (heroes "Stale")).putSeason (heroesSeason "Stale")

/-- An episode that came into memory with its season, while an older one is still in the store
behind the first. -/
theorem supplied_of_refresh_entry :
    let season : SeasonKey := ⟨"tvmaze", "82", 1⟩
    let requests : List (Lookup × Bool) :=
      [(.show ⟨"tvmaze", "82"⟩, false), (.season season, true), (.episode ⟨season, false, 1⟩, true)]
    let turns := ((Process.resolver [MemoryStore.tier] [.ofAnswers "tvmaze" heroesCatalog]).turns
      requests { rest := heroesOutdated }).1
    let pilot : Record := .episode (heroesEpisode "Genesis")
    ∃ front turn, turns = front ++ turn :: [] ∧ turn.refresh ∧ turn.reply.record? = some pilot ∧
      ((∃ earlier ∈ front ++ [turn], ∃ exchange ∈ earlier.calls, exchange.FromSource pilot) ∨
        ∃ earlier ∈ front, earlier.refresh = false ∧
          ∃ exchange ∈ earlier.calls, exchange.FromLater pilot) := by
  intro season requests turns pilot
  have hrecords : turns.map (fun turn => (turn.refresh, turn.reply.record?)) =
      [(false, some (.show (heroes "Stale"))), (true, some (.season (heroesSeason "Genesis")))] ++
        [(true, some pilot)] := by
    decide +kernel
  obtain ⟨front, last, hsplit, -, hlast⟩ := List.map_eq_append_iff.mp hrecords
  obtain ⟨turn, rfl, hturn⟩ := List.map_eq_singleton_iff.mp hlast
  obtain ⟨hrefresh, hrecord⟩ := Prod.mk.inj hturn
  obtain ⟨-, -, hsupplied⟩ := supplied_of_refresh [MemoryStore.tier]
    [.ofAnswers "tvmaze" heroesCatalog] requests heroesOutdated
  exact ⟨front, turn, hsplit, hrefresh, hrecord,
    (hsupplied front turn [] hsplit hrefresh).2 pilot hrecord⟩

/-- A request with `refresh` is given the record of the store behind the first, because an ordinary
one has copied it into memory. No source has given that record, and the only source has another. -/
theorem refresh_gives_copied :
    let key : CatalogKey := ⟨"tvmaze", "82"⟩
    let resolver := Process.resolver [MemoryStore.tier] [.ofAnswers "tvmaze" heroesCatalog]
    let requests := [(.show key, false), (.show key, true)]
    let turns := (resolver.turns requests { rest := heroesOutdated }).1
    (∃ ordinary refreshed, turns = [ordinary] ++ refreshed :: [] ∧ refreshed.refresh ∧
      refreshed.reply.record? = some (.show (heroes "Stale")) ∧
      ∀ turn ∈ turns, ∀ exchange ∈ turn.calls, ¬ exchange.FromSource (.show (heroes "Stale"))) ∧
    (resolver.turns [(.show key, true)] { rest := heroesOutdated }).1.map (·.reply.record?) =
      [some (.show (heroes "Heroes"))] := by
  intro key resolver requests turns
  have hturns : turns = [
      { lookup := .show key, refresh := false, reply := .show (.ok (some (heroes "Stale")))
        calls := [.store 0 (.getShow key) (.show (.ok none)),
          .store 1 (.getShow key) (.show (.ok (some (heroes "Stale")))),
          .store 0 (.cacheShow (heroes "Stale")) (.done (.ok ()))] },
      { lookup := .show key, refresh := true, reply := .show (.ok (some (heroes "Stale")))
        calls := [.store 0 (.getShow key) (.show (.ok (some (heroes "Stale"))))] }] := rfl
  refine ⟨⟨_, _, hturns, rfl, rfl, ?_⟩, rfl⟩
  rw [hturns]
  simp [Exchange.FromSource]

end MediaShelf
