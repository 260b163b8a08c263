import MediaShelf.Proofs.Resolver.Journal
import MediaShelf.Proofs.Resolver.Keeps
import MediaShelf.Proofs.Resolver.Truth
import MediaShelf.Proofs.Store.Consistent
import MediaShelf.Proofs.Store.Session

/-!
# Entries agree with their season

A process has a memory of its own above the store on disk, which outlives it. Entries are copied
into the memory one by one, before their season is known, and a season that is fetched again takes
the place of an older one in both stores. Even so an entry is never given other than as the season
has it that was given last.

The two stores are kept coherent: they agree with themselves, and the disk has every season that the
memory has. A new season breaks this for a moment, from its first write into the memory to its first
write to the disk. All of it rests on the files of the store: ids whose file names fold into one
share a file, and then a season of one catalog may come back with the entries of another.

## Main definitions

* `Machine` — the memory of a process, the disk, and the rest of the world
* `Machine.resolver` — the memory above the store on disk
* `Source.Storable` — well-formed seasons, and records that can be kept on disk
* `Holding` — what holds of the memory and of the store that the disk mirrors

## Main results

* `Machine.leads_getSeason`, `Machine.leads_getEpisode` — what single requests give and keep
* `Machine.keeps_replies` — any requests leave the stores coherent
* `getEpisode_of_getSeason` — the entries of a season that was given
-/

namespace MediaShelf

variable {ω α : Type}

open JsonStore (Refines)
open MemoryStore (Coherent Ahead)

/-- The memory of a process, the disk, and the rest of the world. -/
structure Machine (ω : Type) where
  memory : MemoryStore := {}
  disk : Disk
  rest : ω

namespace Machine

/-- An effect on the memory. -/
def onMemory (effect : StateM MemoryStore α) : StateM (Machine ω) α := fun machine =>
  let (value, memory) := effect machine.memory
  (value, { machine with memory })

/-- An effect on the disk. -/
def onDisk (effect : StateM Disk α) : StateM (Machine ω) α := fun machine =>
  let (value, disk) := effect machine.disk
  (value, { machine with disk })

/-- An effect on the rest of the world. -/
def onRest (effect : StateM ω α) : StateM (Machine ω) α := fun machine =>
  let (value, rest) := effect machine.rest
  (value, { machine with rest })

/-- The memory above the store on disk, and any sources. -/
def resolver (base : Path) (sources : List (Source (StateM ω))) :
    Resolver (StateM (Machine ω)) where
  tiers := [MemoryStore.tier.lift onMemory, (JsonStore.below base).tier.lift onDisk]
  sources := sources.map (·.lift onRest)

/-- The memory, with its calls noted. -/
def upper : Tier (StateM (Watched (Machine ω))) := (MemoryStore.tier.lift onMemory).watched 0

/-- The store on disk, with its calls noted. -/
def lower (base : Path) : Tier (StateM (Watched (Machine ω))) :=
  ((JsonStore.below base).tier.lift onDisk).watched 1

theorem tiers_resolver {base : Path} {sources : List (Source (StateM ω))} :
    (resolver base sources).watched.tiers = [upper, lower base] := rfl

end Machine

/-- A well-formed season under a key; it and its entries are read as they were written. -/
structure Season.Storable (season : Season) (key : SeasonKey) : Prop where
  key_eq : season.key = key
  formed : season.WellFormed
  readsBack : Season.codec.ReadsBack season
  entries : ∀ episode ∈ season.episodes ++ season.specials, Episode.codec.ReadsBack episode

/-- The source gives well-formed seasons under the keys it was asked for, and shows and films with
keys made of parts that file names keep. All records are read as they were written. -/
structure Source.Storable (source : Source (StateM ω)) : Prop where
  getShow : ∀ {id world record}, (source.getShow id world).1 = .ok (some record) →
    record.key.Portable ∧ Show.codec.ReadsBack record
  getSeason : ∀ {id number world season}, (source.getSeason id number world).1 = .ok (some season) →
    season.Storable ⟨source.sourceId, id, number⟩
  getFilm : ∀ {id world film}, (source.getFilm id world).1 = .ok (some film) →
    film.key.Portable ∧ Film.codec.ReadsBack film

/-- If a season or an entry is looked up, its key is made of parts that file names keep. -/
def Lookup.Portable : Lookup → Prop
  | .season key => key.Portable
  | .episode key => key.season.Portable
  | _ => True

/-- As long as no write has failed, the disk mirrors a store that stands to the memory as said. -/
def Holding (base : Path) (place : Location) (rel : MemoryStore → MemoryStore → Prop)
    (watched : Watched (Machine ω)) : Prop :=
  Faultless watched.calls →
    ∃ kept, Refines base place watched.world.disk kept ∧ rel watched.world.memory kept

theorem Holding.mono {base : Path} {place : Location}
    {rel weaker : MemoryStore → MemoryStore → Prop} {watched : Watched (Machine ω)}
    (h : Holding base place rel watched)
    (hrel : ∀ memory kept, rel memory kept → weaker memory kept) :
    Holding base place weaker watched := by
  intro hcalls
  obtain ⟨kept, hrefines, hkept⟩ := h hcalls
  exact ⟨kept, hrefines, hrel _ _ hkept⟩

/-- What is known of the memory alone can be added. -/
theorem Holding.and {base : Path} {place : Location} {rel : MemoryStore → MemoryStore → Prop}
    {fact : MemoryStore → Prop} {watched : Watched (Machine ω)} (h : Holding base place rel watched)
    (hfact : fact watched.world.memory) :
    Holding base place (fun memory kept => rel memory kept ∧ fact memory) watched := by
  intro hcalls
  obtain ⟨kept, hrefines, hrel⟩ := h hcalls
  exact ⟨kept, hrefines, hrel, hfact⟩

namespace Machine

variable {base : Path} {place : Location} {rel miss after : MemoryStore → MemoryStore → Prop}
  {hit : α → MemoryStore → MemoryStore → Prop} {sources : List (Source (StateM ω))}

/-! ### Single calls -/

/-- What a store found tells the case: a record, or none. -/
theorem holding_found {answer : Except StoreError (Option α)}
    {found : MemoryStore → MemoryStore → Option α} {watched : Watched (Machine ω)}
    (h : Holding base place (fun memory kept => rel memory kept ∧ answer = .ok (found memory kept))
      watched)
    (hhit : ∀ memory kept value, rel memory kept → found memory kept = some value →
      hit value memory kept)
    (hmiss : ∀ memory kept, rel memory kept → found memory kept = none → miss memory kept) :
    AfterRead (fun value => Holding base place (hit value)) (Holding base place miss) answer
      watched := by
  match answer with
  | .ok (some value) =>
    exact h.mono fun memory kept hrel => hhit memory kept value hrel.1 (Except.ok.inj hrel.2).symm
  | .ok none =>
    exact h.mono fun memory kept hrel => hmiss memory kept hrel.1 (Except.ok.inj hrel.2).symm
  | .error _ => exact h.mono fun _ _ hrel => nomatch hrel.2

/-- The memory gives what it has. -/
theorem leads_recall (note : Except StoreError (Option α) → Exchange)
    (read : MemoryStore → Option α)
    (hhit : ∀ memory kept value, rel memory kept → read memory = some value → hit value memory kept)
    (hmiss : ∀ memory kept, rel memory kept → read memory = none → miss memory kept) :
    Leads (Holding base place rel : Watched (Machine ω) → Prop)
      (watch note (onMemory (MemoryStore.reading read)))
      (AfterRead (fun value => Holding base place (hit value)) (Holding base place miss)) := by
  intro watched h
  refine holding_found (fun hcalls => ?_) hhit hmiss
  obtain ⟨kept, hrefines, hrel⟩ := h (faultless_append.mp hcalls).1
  exact ⟨kept, hrefines, hrel, rfl⟩

/-- The memory takes what it is given. -/
theorem leads_remember (note : Except StoreError Unit → Exchange) (put : MemoryStore → MemoryStore)
    (hput : ∀ memory kept, rel memory kept → after (put memory) kept) :
    Leads (Holding base place rel : Watched (Machine ω) → Prop)
      (watch note (onMemory (MemoryStore.writing put)))
      fun _ => Holding base place after := by
  intro watched h hcalls
  obtain ⟨kept, hrefines, hrel⟩ := h (faultless_append.mp hcalls).1
  exact ⟨kept, hrefines, hput _ _ hrel⟩

/-- What changes neither the memory nor the disk leaves everything as it was. -/
theorem keeps_idle {note : α → Exchange} (effect : StateM (Machine ω) α) (right : α → Prop)
    (hright : ∀ machine, right (effect machine).1)
    (hidle : ∀ machine, (effect machine).2.memory = machine.memory ∧
      (effect machine).2.disk = machine.disk) :
    Keeps (Holding base place rel) (watch note effect) right := by
  intro watched h
  obtain ⟨hmemory, hdisk⟩ := hidle watched.world
  refine ⟨hright watched.world, fun hcalls => ?_⟩
  obtain ⟨kept, hrefines, hrel⟩ := h (faultless_append.mp hcalls).1
  exact ⟨kept, hdisk ▸ hrefines, hmemory ▸ hrel⟩

/-- The disk answers as the store that it mirrors, and goes on mirroring it. -/
theorem leads_ask (call : Tier.Call) (hcall : call.Portable) (hreads : call.ReadsBack)
    (made : Tier (StateM Disk) → StateM Disk α) (told : α → Tier.Answer)
    (hask : ∀ tier disk, tier.ask call disk = (told (made tier disk).1, (made tier disk).2)) :
    Leads (Holding base place rel : Watched (Machine ω) → Prop)
      (watch (fun answer => .store 1 call (told answer))
        (onDisk (made (JsonStore.below base).tier)))
      fun answer => Holding base place fun memory kept => ∃ before, rel memory before ∧
        (told answer, kept) = MemoryStore.tier.ask call before := by
  intro watched h hcalls
  -- the call itself is noted, so it did not fail either
  obtain ⟨hbefore, hnow⟩ := faultless_append.mp hcalls
  obtain ⟨before, hrefines, hrel⟩ := h hbefore
  have hdone := hnow _ List.mem_cons_self
  have hstep := hrefines.ask hcall hreads (by rw [hask]; exact hdone)
  rw [hask] at hstep
  exact ⟨_, hstep.2, before, hrel, Prod.ext hstep.1 rfl⟩

/-- The disk gives what the store has that it mirrors. -/
theorem leads_look (call : Tier.Call) (hcall : call.Portable) (hreads : call.ReadsBack)
    (made : Tier (StateM Disk) → StateM Disk (Except StoreError (Option α)))
    (told : Except StoreError (Option α) → Tier.Answer)
    (hask : ∀ tier disk, tier.ask call disk = (told (made tier disk).1, (made tier disk).2))
    (found : MemoryStore → Option α)
    (hfound : ∀ kept, MemoryStore.tier.ask call kept = (told (.ok (found kept)), kept))
    (htold : ∀ a b, told a = told b → a = b)
    (hhit : ∀ memory kept value, rel memory kept → found kept = some value → hit value memory kept)
    (hmiss : ∀ memory kept, rel memory kept → found kept = none → miss memory kept) :
    Leads (Holding base place rel : Watched (Machine ω) → Prop)
      (watch (fun answer => .store 1 call (told answer))
        (onDisk (made (JsonStore.below base).tier)))
      (AfterRead (fun value => Holding base place (hit value)) (Holding base place miss)) := by
  refine (leads_ask call hcall hreads made told hask).mono fun answer watched h => ?_
  refine holding_found (h.mono fun memory kept hrel => ?_) hhit hmiss
  obtain ⟨before, hbefore, hanswer⟩ := hrel
  rw [hfound, Prod.mk.injEq] at hanswer
  obtain ⟨hanswer, rfl⟩ := hanswer
  exact ⟨hbefore, htold _ _ hanswer⟩

/-- The disk takes what it is given. -/
theorem leads_store (call : Tier.Call) (hcall : call.Portable) (hreads : call.ReadsBack)
    (made : Tier (StateM Disk) → StateM Disk (Except StoreError Unit))
    (hask : ∀ tier disk, tier.ask call disk = (.done (made tier disk).1, (made tier disk).2))
    (put : MemoryStore → MemoryStore)
    (hasked : ∀ kept, (MemoryStore.tier.ask call kept).2 = put kept)
    (hput : ∀ memory kept, rel memory kept → after memory (put kept)) :
    Leads (Holding base place rel : Watched (Machine ω) → Prop)
      (watch (fun answer => .store 1 call (.done answer))
        (onDisk (made (JsonStore.below base).tier)))
      fun _ => Holding base place after := by
  refine (leads_ask call hcall hreads made .done hask).mono fun answer watched h =>
    h.mono fun memory kept hrel => ?_
  obtain ⟨before, hbefore, hanswer⟩ := hrel
  have hkept : kept = put before := (congrArg Prod.snd hanswer).trans (hasked before)
  exact hkept ▸ hput memory before hbefore

/-! ### Seasons -/

/-- A season is put into the memory, which is then ahead of the disk. -/
theorem leads_rememberSeason (season : Season) (below : MemoryStore → Prop)
    (hrel : ∀ memory kept, rel memory kept →
      Coherent memory kept ∧ season.WellFormed ∧ below kept) :
    Leads (Holding base place rel : Watched (Machine ω) → Prop) (writeSeason upper season)
      fun _ => Holding base place fun memory kept => Ahead season memory kept ∧ below kept := by
  refine .writeSeason ?_ fun episode hmem => Leads.keeps ?_
  · refine leads_remember _ (·.putSeason season) fun memory kept h => ?_
    obtain ⟨hcoherent, hformed, hbelow⟩ := hrel memory kept h
    exact ⟨hcoherent.ahead hformed, hbelow⟩
  · exact leads_remember _ (·.putEpisode episode) fun memory kept h =>
      ⟨h.1.putEntry_upper hmem, h.2⟩

/-- A season that the memory has already is put on disk. -/
theorem leads_storeSeason {season : Season} {key : SeasonKey} (hseason : season.Storable key)
    (hkey : key.Portable) (fact : Prop) :
    Leads (Holding base place fun memory kept => Ahead season memory kept ∧ fact)
      (writeSeason (lower base : Tier (StateM (Watched (Machine ω)))) season)
      fun _ => Holding base place fun memory kept =>
        Coherent memory kept ∧ memory.seasons.lookup key = some season ∧ fact := by
  obtain rfl := hseason.key_eq
  refine .writeSeason ?_ fun episode hmem => Leads.keeps ?_
  · refine leads_store (.cacheSeason season) hkey hseason.readsBack (·.cacheSeason season)
      (fun _ _ => rfl) (·.putSeason season) (fun _ => rfl) fun memory kept h => ?_
    have hkept : (kept.putSeason season).seasons.lookup season.key = some season := by
      rw [MemoryStore.seasons_putSeason, if_pos rfl]
    exact ⟨h.1.putSeason_lower.coherent hkept, h.1.ahead, h.2⟩
  · have hown : episode.seasonKey.Portable := by
      rw [hseason.formed.seasonKey_of_mem hmem]
      exact hkey
    refine leads_store (.cacheEpisode episode) hown (hseason.entries episode hmem)
      (·.cacheEpisode episode) (fun _ _ => rfl) (·.putEpisode episode) (fun _ => rfl)
      fun memory kept h => ?_
    exact ⟨h.1.putEntry_lower (h.1.seasons _ season h.2.1) hmem, h.2⟩

/-- What holds after a request for a season that the memory knew as `known`. -/
structure SeasonServed (key : SeasonKey) (known : Option Season)
    (answer : Except SourceError (Option Season)) (memory kept : MemoryStore) : Prop where
  coherent : Coherent memory kept
  given : ∀ season, answer = .ok (some season) → memory.seasons.lookup key = some season
  recalled : ∀ season, known = some season → answer = .ok (some season)

/-- What holds once the memory turned out not to know a season. -/
structure SeasonMissed (known : Option Season) (memory kept : MemoryStore) : Prop where
  coherent : Coherent memory kept
  unknown : known = none

section GetSeason

variable {key : SeasonKey} {known : Option Season} {season : Season} {memory kept : MemoryStore}

/-- Where nothing is given, nothing was known. -/
theorem SeasonMissed.served (h : SeasonMissed known memory kept)
    {answer : Except SourceError (Option Season)} (hnone : ∀ season, answer ≠ .ok (some season)) :
    SeasonServed key known answer memory kept where
  coherent := h.coherent
  given season hanswer := absurd hanswer (hnone season)
  recalled _ hknown := nomatch h.unknown.symm.trans hknown

/-- A season that the memory did not know is known from now on. -/
theorem SeasonServed.learnt (hcoherent : Coherent memory kept)
    (hknown : memory.seasons.lookup key = some season) (hnew : known = none) :
    SeasonServed key known (.ok (some season)) memory kept where
  coherent := hcoherent
  given other hanswer := by
    cases hanswer
    exact hknown
  recalled _ hother := nomatch hnew.symm.trans hother

/-- The memory is asked for a season. -/
theorem leads_recallSeason (key : SeasonKey) (known : Option Season) :
    Leads (Holding base place fun memory kept =>
        Coherent memory kept ∧ memory.seasons.lookup key = known)
      ((upper : Tier (StateM (Watched (Machine ω)))).getSeason key)
      (AfterRead (fun season => Holding base place (SeasonServed key known (.ok (some season))))
        (Holding base place (SeasonMissed known))) := by
  refine leads_recall _ (·.seasons.lookup key) ?_ ?_
  · rintro memory kept season ⟨hcoherent, rfl⟩ hfound
    refine ⟨hcoherent, fun other hother => ?_, fun other hother => ?_⟩
    · cases hother
      exact hfound
    · rw [← hother, hfound]
  · rintro memory kept ⟨hcoherent, rfl⟩ hfound
    exact ⟨hcoherent, hfound⟩

/-- The disk is asked for a season. -/
theorem leads_lookForSeason (hkey : key.Portable) :
    Leads (Holding base place (SeasonMissed known))
      ((lower base : Tier (StateM (Watched (Machine ω)))).getSeason key)
      (AfterRead (fun season => Holding base place fun memory kept =>
          SeasonMissed known memory kept ∧ kept.seasons.lookup key = some season)
        (Holding base place (SeasonMissed known))) := by
  dsimp only [lower, Tier.watched, Tier.lift]
  refine leads_look (.getSeason key) hkey trivial (·.getSeason key) .season (fun _ _ => rfl)
    (·.seasons.lookup key) (fun _ => rfl) ?_ (fun _ _ _ h hfound => ⟨h, hfound⟩) fun _ _ h _ => h
  rintro a b ⟨⟩
  rfl

/-- A season that was on disk alone is copied into the memory. -/
theorem leads_copySeason (key : SeasonKey) (known : Option Season) (season : Season) :
    Leads (Holding base place fun memory kept =>
        SeasonMissed known memory kept ∧ kept.seasons.lookup key = some season)
      (writeSeason (upper : Tier (StateM (Watched (Machine ω)))) season)
      fun _ => Holding base place (SeasonServed key known (.ok (some season))) := by
  let below (kept : MemoryStore) : Prop :=
    known = none ∧ season.key = key ∧ kept.seasons.lookup key = some season
  refine (leads_rememberSeason season below ?_).mono fun _ _ h => h.mono ?_
  · rintro memory kept ⟨h, hkept⟩
    obtain ⟨hown, hformed⟩ := h.coherent.consistentLower.seasons key season hkept
    exact ⟨h.coherent, hformed, h.unknown, hown, hkept⟩
  · rintro memory kept ⟨hahead, hnew, rfl, hkept⟩
    exact .learnt (hahead.coherent hkept) hahead.ahead hnew

/-- The source is asked for a season. -/
theorem leads_fetchSeason (hsources : ∀ source ∈ sources, source.Storable)
    {source : Source (StateM (Watched (Machine ω)))}
    (hsource : (resolver base sources).watched.sources.find? (·.sourceId == key.sourceId) =
      some source) :
    Leads (Holding base place (SeasonMissed known)) (source.getSeason key.showId key.season)
      (AfterFetch (fun season watched =>
          season.Storable key ∧ Holding base place (SeasonMissed known) watched)
        fun answer => Holding base place (SeasonServed key known answer)) := by
  have hid : source.sourceId = key.sourceId := by simpa using List.find?_some hsource
  obtain ⟨_, _, hlifted, rfl⟩ := mem_watchedSources (List.mem_of_find?_eq_some hsource)
  obtain ⟨catalog, hcatalog, rfl⟩ := List.mem_map.mp (List.mem_of_getElem? hlifted)
  refine (keeps_idle (onRest (catalog.getSeason key.showId key.season))
    (fun answer => ∀ season, answer = .ok (some season) → season.Storable key)
    (fun machine season hanswer => ?_) fun _ => ⟨rfl, rfl⟩).leads ?_
  · have hstorable := (hsources catalog hcatalog).getSeason hanswer
    rwa [show catalog.sourceId = key.sourceId from hid] at hstorable
  intro answer watched hright h
  match answer with
  | .ok (some season) => exact ⟨hright season rfl, h⟩
  | .ok none => exact h.mono fun _ _ hmissed => hmissed.served fun _ => nofun
  | .error _ => exact h.mono fun _ _ hmissed => hmissed.served fun _ => nofun

/-- A season that a source has given is written into both stores. -/
theorem leads_populateSeason (hkey : key.Portable) (hseason : season.Storable key) :
    Leads (Holding base place (SeasonMissed known))
      (populate writeSeason season (resolver base sources).watched.tiers)
      fun _ => Holding base place (SeasonServed key known (.ok (some season))) := by
  -- the memory comes first and is ahead until the season itself is written to the disk
  refine (leads_rememberSeason season (fun _ => known = none) fun _ _ h => ?_).bind fun _ => ?_
  · exact ⟨h.coherent, hseason.formed, h.unknown⟩
  · refine (leads_storeSeason hseason hkey _).bind fun _ => .pure fun _ h => h.mono ?_
    rintro memory kept ⟨hcoherent, hknown, hnew⟩
    exact .learnt hcoherent hknown hnew

/-- A season that is given is in the memory from then on, and what was there is given. -/
theorem leads_getSeason (hsources : ∀ source ∈ sources, source.Storable) (hkey : key.Portable)
    (known : Option Season) (refresh : Bool) :
    Leads (Holding base place fun memory kept =>
        Coherent memory kept ∧ memory.seasons.lookup key = known)
      ((resolver base sources).watched.getSeason key refresh)
      fun answer => Holding base place (SeasonServed key known answer) := by
  refine .resolve (.readTwo tiers_resolver (leads_recallSeason key known)
    (leads_lookForSeason hkey) (leads_copySeason key known)) ?_
    (fun source hsource => leads_fetchSeason hsources hsource) fun season => ?_
  · exact fun _ h => h.mono fun _ _ hmissed => hmissed.served fun _ => nofun
  · exact .of_and fun hseason => leads_populateSeason hkey hseason

end GetSeason

/-! ### Entries -/

section GetEpisode

variable {key : EpisodeKey} {known : Option Season} {memory kept : MemoryStore}

/-- What holds after a request for an entry of a season that the memory knew as `known`. -/
structure EpisodeServed (key : EpisodeKey) (known : Option Season)
    (answer : Except SourceError (Option Episode)) (memory kept : MemoryStore) : Prop where
  coherent : Coherent memory kept
  recalled : ∀ season, known = some season →
    answer = .ok (season.numbered? key.special key.number)

/-- What holds once the memory turned out to have no such entry. -/
structure EpisodeMissed (key : EpisodeKey) (known : Option Season) (memory kept : MemoryStore) :
    Prop where
  coherent : Coherent memory kept
  known_eq : memory.seasons.lookup key.season = known
  missed : memory.findEpisode? key = none

/-- The memory is asked for an entry. -/
theorem leads_recallEpisode (key : EpisodeKey) (known : Option Season) :
    Leads (Holding base place fun memory kept =>
        Coherent memory kept ∧ memory.seasons.lookup key.season = known)
      ((upper : Tier (StateM (Watched (Machine ω)))).getEpisode key)
      (AfterRead (fun episode => Holding base place (EpisodeServed key known (.ok (some episode))))
        (Holding base place (EpisodeMissed key known))) := by
  refine leads_recall _ (·.findEpisode? key) ?_ ?_
  · rintro memory kept episode ⟨hcoherent, rfl⟩ hfound
    refine ⟨hcoherent, fun season hseason => ?_⟩
    rw [← hfound, hcoherent.consistentUpper.findEpisode? hseason]
  · rintro memory kept ⟨hcoherent, hknown⟩ hfound
    exact ⟨hcoherent, hknown, hfound⟩

/-- The disk is asked for an entry. -/
theorem leads_lookForEpisode (hkey : key.season.Portable) :
    Leads (Holding base place (EpisodeMissed key known))
      ((lower base : Tier (StateM (Watched (Machine ω)))).getEpisode key)
      (AfterRead (fun episode => Holding base place fun memory kept =>
          EpisodeMissed key known memory kept ∧ kept.findEpisode? key = some episode)
        (Holding base place (EpisodeMissed key known))) := by
  dsimp only [lower, Tier.watched, Tier.lift]
  refine leads_look (.getEpisode key) hkey trivial (·.getEpisode key) .episode (fun _ _ => rfl)
    (·.findEpisode? key) (fun _ => rfl) ?_ (fun _ _ _ h hfound => ⟨h, hfound⟩) fun _ _ h _ => h
  rintro a b ⟨⟩
  rfl

/-- An entry that was on disk alone is copied into the memory, which cannot have its season. -/
theorem leads_copyEpisode (key : EpisodeKey) (known : Option Season) (episode : Episode) :
    Leads (Holding base place fun memory kept =>
        EpisodeMissed key known memory kept ∧ kept.findEpisode? key = some episode)
      ((upper : Tier (StateM (Watched (Machine ω)))).cacheEpisode episode)
      fun _ => Holding base place (EpisodeServed key known (.ok (some episode))) := by
  refine leads_remember _ (·.putEpisode episode) ?_
  rintro memory kept ⟨⟨hcoherent, rfl, hmissed⟩, hfound⟩
  refine ⟨hcoherent.putEpisode hmissed hfound, fun season hseason => ?_⟩
  -- a season in the memory would be on disk as well, and both would tell of the entry
  rw [hcoherent.findEpisode?_eq hseason, hmissed] at hfound
  cases hfound

/-- An entry of a season that the memory has is given as the season has it. -/
theorem leads_getEpisode (hsources : ∀ source ∈ sources, source.Storable) (key : EpisodeKey)
    (hkey : key.season.Portable) (known : Option Season) (refresh : Bool) :
    Leads (Holding base place fun memory kept =>
        Coherent memory kept ∧ memory.seasons.lookup key.season = known)
      ((resolver base sources).watched.getEpisode key refresh)
      fun answer => Holding base place (EpisodeServed key known answer) := by
  have hread : Leads (Holding base place fun memory kept =>
        Coherent memory kept ∧ memory.seasons.lookup key.season = known)
      (readTiers (·.getEpisode key) (·.cacheEpisode ·)
        ((resolver base sources).watched.readable refresh))
      fun found => found.elim (Holding base place (EpisodeMissed key known))
        fun episode => Holding base place (EpisodeServed key known (.ok (some episode))) :=
    .readTwo tiers_resolver (leads_recallEpisode key known) (leads_lookForEpisode hkey)
      (leads_copyEpisode key known)
  refine hread.bind fun found => ?_
  match found with
  | some episode => exact .pure fun _ h => h
  | none =>
    -- the season is asked for instead, of which the memory may know more than of the entry
    have hseason := (leads_getSeason hsources hkey known refresh).mono_left
      fun watched (h : Holding base place (EpisodeMissed key known) watched) =>
        h.mono fun _ _ hmissed => ⟨hmissed.coherent, hmissed.known_eq⟩
    refine hseason.bind fun answer => .pure fun _ h => h.mono fun memory kept hserved => ?_
    refine ⟨hserved.coherent, fun season hknown => ?_⟩
    rw [hserved.recalled season hknown]
    rfl

end GetEpisode

/-! ### Requests of all kinds -/

section Requests

variable {refresh : Bool}

/-- A source of the machine, with its calls noted. -/
theorem mem_sources {source : Source (StateM (Watched (Machine ω)))}
    (h : source ∈ (resolver base sources).watched.sources) :
    ∃ place, ∃ catalog ∈ sources, source = (catalog.lift onRest).watched place := by
  obtain ⟨place, _, hlifted, rfl⟩ := mem_watchedSources h
  obtain ⟨catalog, hcatalog, rfl⟩ := List.mem_map.mp (List.mem_of_getElem? hlifted)
  exact ⟨place, catalog, hcatalog, rfl⟩

theorem keeps_getShow (hsources : ∀ source ∈ sources, source.Storable) (key : CatalogKey) :
    Keeps (Holding base place Coherent) ((resolver base sources).watched.getShow key refresh)
      fun _ => True := by
  refine .resolveTwo (fun record => record.key.Portable ∧ Show.codec.ReadsBack record)
    tiers_resolver
    (keeps_idle (onMemory (MemoryStore.tier.getShow key)) (fun _ => True) (fun _ => trivial)
      fun _ => ⟨rfl, rfl⟩)
    (keeps_idle (onDisk ((JsonStore.below base).tier.getShow key)) (fun _ => True)
      (fun _ => trivial) fun _ => ⟨rfl, rfl⟩)
    (fun record => ?_) (fun record ⟨hkey, hreads⟩ => ?_) fun source hsource => ?_
  · exact (leads_remember _ (·.putShow record) fun _ _ h =>
      ⟨h.consistentUpper.putShow record, h.consistentLower, h.seasons⟩).keeps
  · refine Leads.keeps (leads_store (.cacheShow record) hkey hreads (·.cacheShow record)
      (fun _ _ => rfl) (·.putShow record) (fun _ => rfl) fun _ _ h => ?_)
    exact ⟨h.consistentUpper, h.consistentLower.putShow record, h.seasons⟩
  · obtain ⟨_, catalog, hcatalog, rfl⟩ := mem_sources hsource
    exact keeps_idle (onRest (catalog.getShow key.id))
      (fun answer => ∀ record, answer = .ok (some record) →
        record.key.Portable ∧ Show.codec.ReadsBack record)
      (fun _ _ => (hsources catalog hcatalog).getShow) fun _ => ⟨rfl, rfl⟩

theorem keeps_getFilm (hsources : ∀ source ∈ sources, source.Storable) (key : CatalogKey) :
    Keeps (Holding base place Coherent) ((resolver base sources).watched.getFilm key refresh)
      fun _ => True := by
  refine .resolveTwo (fun film => film.key.Portable ∧ Film.codec.ReadsBack film)
    tiers_resolver
    (keeps_idle (onMemory (MemoryStore.tier.getFilm key)) (fun _ => True) (fun _ => trivial)
      fun _ => ⟨rfl, rfl⟩)
    (keeps_idle (onDisk ((JsonStore.below base).tier.getFilm key)) (fun _ => True)
      (fun _ => trivial) fun _ => ⟨rfl, rfl⟩)
    (fun film => ?_) (fun film ⟨hkey, hreads⟩ => ?_) fun source hsource => ?_
  · exact (leads_remember _ (·.putFilm film) fun _ _ h =>
      ⟨h.consistentUpper.putFilm film, h.consistentLower, h.seasons⟩).keeps
  · refine Leads.keeps (leads_store (.cacheFilm film) hkey hreads (·.cacheFilm film)
      (fun _ _ => rfl) (·.putFilm film) (fun _ => rfl) fun _ _ h => ?_)
    exact ⟨h.consistentUpper, h.consistentLower.putFilm film, h.seasons⟩
  · obtain ⟨_, catalog, hcatalog, rfl⟩ := mem_sources hsource
    exact keeps_idle (onRest (catalog.getFilm key.id))
      (fun answer => ∀ film, answer = .ok (some film) →
        film.key.Portable ∧ Film.codec.ReadsBack film)
      (fun _ _ => (hsources catalog hcatalog).getFilm) fun _ => ⟨rfl, rfl⟩

/-- No request breaks the coherence of the stores. -/
theorem keeps_reply (hsources : ∀ source ∈ sources, source.Storable) {lookup : Lookup}
    (hlookup : lookup.Portable) :
    Keeps (Holding base place Coherent) ((resolver base sources).watched.reply lookup refresh)
      fun _ => True := by
  cases lookup with
  | «show» key => exact (keeps_getShow hsources key).bind fun _ _ => .pure trivial
  | film key => exact (keeps_getFilm hsources key).bind fun _ _ => .pure trivial
  | season key =>
    refine Leads.keeps fun watched h => ?_
    -- whatever the memory knows of the season at first
    have hserved := leads_getSeason hsources hlookup (watched.world.memory.seasons.lookup key)
      refresh watched (h.and rfl)
    exact hserved.mono fun _ _ hrel => hrel.coherent
  | episode key =>
    refine Leads.keeps fun watched h => ?_
    have hserved := leads_getEpisode hsources key hlookup
      (watched.world.memory.seasons.lookup key.season) refresh watched (h.and rfl)
    exact hserved.mono fun _ _ hrel => hrel.coherent

/-- So any requests leave the stores coherent. -/
theorem keeps_replies (hsources : ∀ source ∈ sources, source.Storable)
    (requests : List (Lookup × Bool)) (hrequests : ∀ request ∈ requests, request.1.Portable) :
    Keeps (Holding base place Coherent) ((resolver base sources).watched.replies requests)
      fun _ => True := by
  induction requests with
  | nil => exact .pure trivial
  | cons request requests ih =>
    obtain ⟨hfirst, hrest⟩ := List.forall_mem_cons.mp hrequests
    refine (keeps_reply hsources hfirst).bind fun _ _ => ?_
    exact (ih hrest).bind fun _ _ => .pure trivial

end Requests

end Machine

section Results

variable {base : Path} {place : Location} {sources : List (Source (StateM ω))} {disk : Disk}
  {kept : MemoryStore} {rest : ω} {requests : List (Lookup × Bool)}

/-- A new process finds the stores coherent, as long as the disk agrees with itself. -/
theorem holding_start (hdisk : Refines base place disk kept) (hkept : kept.Consistent) :
    Holding base place Coherent ⟨{ disk, rest }, []⟩ :=
  fun _ => ⟨kept, hdisk, MemoryStore.consistent_empty, hkept, fun _ _ h => nomatch h⟩

/-- What a process leaves on disk agrees with itself, so that another one can go on from there. -/
theorem consistent_replies (hsources : ∀ source ∈ sources, source.Storable)
    (hdisk : Refines base place disk kept) (hkept : kept.Consistent)
    (hrequests : ∀ request ∈ requests, request.1.Portable) :
    let after := ((Machine.resolver base sources).watched.replies requests ⟨{ disk, rest }, []⟩).2
    Faultless after.calls →
      ∃ kept, Refines base place after.world.disk kept ∧ kept.Consistent := by
  intro after hcalls
  obtain ⟨kept, hrefines, hcoherent⟩ := (Machine.keeps_replies hsources requests hrequests _
    (holding_start hdisk hkept)).2 hcalls
  exact ⟨kept, hrefines, hcoherent.consistentLower⟩

/-- A process starts with an empty memory above a store on disk that agrees with itself, and no
write to the disk fails. After any requests to sources that may change at any time, if a season is
given, every entry that is asked for next is given as this season has it, with either refresh
flag. -/
theorem getEpisode_of_getSeason (hsources : ∀ source ∈ sources, source.Storable)
    (hdisk : Refines base place disk kept) (hkept : kept.Consistent)
    (hrequests : ∀ request ∈ requests, request.1.Portable) {key : SeasonKey}
    (hkey : key.Portable) {season : Season} :
    let resolver := (Machine.resolver base sources).watched
    let before := (resolver.replies requests ⟨{ disk, rest }, []⟩).2
    let given := resolver.getSeason key false before
    given.1 = .ok (some season) → ∀ special number refresh,
      let last := resolver.getEpisode ⟨key, special, number⟩ refresh given.2
      Faultless last.2.calls → last.1 = .ok (season.numbered? special number) := by
  intro resolver before given hgiven special number refresh last hcalls
  have hbefore : Holding base place Coherent before :=
    (Machine.keeps_replies hsources requests hrequests _ (holding_start hdisk hkept)).2
  have hseason :=
    Machine.leads_getSeason hsources hkey (before.world.memory.seasons.lookup key) false
    before (hbefore.and rfl)
  have hepisode :=
    Machine.leads_getEpisode hsources ⟨key, special, number⟩ hkey (some season) refresh
    given.2 (hseason.mono fun _ _ h => ⟨h.coherent, h.given season hgiven⟩)
  obtain ⟨kept, -, hserved⟩ := hepisode hcalls
  exact hserved.recalled season rfl

end Results

/-- A catalog with one season of one show, whose entries depend on how often it was asked. -/
def versioned (sourceId : String) (entries : Nat → List Episode) : Source (StateM Nat) where
  sourceId
  getShow _ := return .ok none
  getSeason id number := fun asked =>
    let season : Season :=
      { sourceId, showId := "a", seasonNumber := 1, episodes := entries asked, specials := [] }
    (.ok (if id = "a" ∧ number = 1 then some season else none), asked + 1)
  getFilm _ := return .ok none
  searchMedia _ := return .ok none

theorem versioned_storable {sourceId : String} {entries : Nat → List Episode}
    (h : ∀ asked, Season.Storable
      { sourceId, showId := "a", seasonNumber := 1, episodes := entries asked, specials := [] }
      ⟨sourceId, "a", 1⟩) : (versioned sourceId entries).Storable where
  getShow hgiven := nomatch hgiven
  getSeason {id number asked season} hgiven := by
    simp only [versioned, Except.ok.injEq, Option.ite_none_right_eq_some, Option.some.injEq]
      at hgiven
    obtain ⟨⟨rfl, rfl⟩, rfl⟩ := hgiven
    exact h asked
  getFilm hgiven := nomatch hgiven

/-- The catalog has another title for the entry from the second time on. The process stays with the
first one, even where it is told to pass over the disk. -/
theorem getEpisode_of_getSeason_recut :
    let pilot (title : String) : Episode :=
      { sourceId := "t", showId := "a", seasonNumber := 1, episodeNumbers := [1], title }
    let season : Season :=
      { sourceId := "t", showId := "a", seasonNumber := 1, episodes := [pilot "Cut"]
        specials := [] }
    let source := versioned "t" fun asked => [pilot (if asked = 0 then "Cut" else "Recut")]
    let base : Path := ⟨['/', 'c']⟩
    let empty : Disk := { tree := { entries := [([['c']], .directory)] } }
    let resolver := (Machine.resolver base [source]).watched
    let before := (resolver.replies [(.episode ⟨⟨"t", "a", 1⟩, false, 1⟩, true)]
      ⟨{ disk := (JsonStore.make base none empty).2, rest := 0 }, []⟩).2
    let given := resolver.getSeason ⟨"t", "a", 1⟩ false before
    given.1 = .ok (some season) ∧
      (resolver.getEpisode ⟨⟨"t", "a", 1⟩, false, 1⟩ true given.2).1 =
        .ok (some (pilot "Cut")) := by
  intro pilot season source base empty resolver before given
  have hreads (title : String) (htitle : title = "Cut" ∨ title = "Recut") :
      Episode.codec.ReadsBack (pilot title) ∧
        Season.codec.ReadsBack { season with episodes := [pilot title] } := by
    rcases htitle with rfl | rfl
    all_goals exact ⟨Codec.readsBack_iff.mpr (by decide +kernel),
      Codec.readsBack_iff.mpr (by decide +kernel)⟩
  have hsource : source.Storable := by
    refine versioned_storable fun asked => ?_
    obtain ⟨hpilot, hseason⟩ := hreads (if asked = 0 then "Cut" else "Recut") (by split <;> simp)
    refine ⟨rfl, ⟨⟨?_, ?_, ?_⟩, ⟨?_, ?_, ?_⟩⟩, hseason, ?_⟩
    all_goals simp [Episode.seasonKey, Season.key, pilot]
    exact hpilot
  have hsources : ∀ catalog ∈ [source], catalog.Storable := by simpa using hsource
  have hformed : empty.tree.WellFormed := by
    refine FileTree.wellFormed_of_entries ?_ rfl
    simp [empty, FileTree.get?]
  have hopens : (JsonStore.make base none empty).1.isOk := by decide +kernel
  obtain ⟨store, hopened⟩ : ∃ store, (JsonStore.make base none empty).1 = .ok store := by
    cases hmade : (JsonStore.make base none empty).1 with
    | error e => simp [hmade, Except.isOk, Except.toBool] at hopens
    | ok store => exact ⟨store, rfl⟩
  obtain ⟨-, place, hdisk⟩ := JsonStore.refines_make hformed (by decide) hopened
  have hkey : SeasonKey.Portable ⟨"t", "a", 1⟩ := by constructor <;> decide
  have hrequests : ∀ request ∈ [(Lookup.episode ⟨⟨"t", "a", 1⟩, false, 1⟩, true)],
      request.1.Portable := by
    simpa [Lookup.Portable] using hkey
  have hgiven : given.1 = .ok (some season) := by decide +kernel
  refine ⟨hgiven, ?_⟩
  exact getEpisode_of_getSeason hsources hdisk MemoryStore.consistent_empty hrequests hkey hgiven
    false 1 true (by decide +kernel)

/-- Ids that file names fold into one share their files: a process that knows a season of the
catalog `t` is told of it when it asks for that of the catalog `T`, but not of its entries. -/
theorem getEpisode_ne_of_shared_file :
    let other : Episode :=
      { sourceId := "T", showId := "a", seasonNumber := 1, episodeNumbers := [1], title := "" }
    let season : Season :=
      { sourceId := "t", showId := "a", seasonNumber := 1, episodes := [], specials := [] }
    let sources := [versioned "t" fun _ => [], versioned "T" fun _ => [other]]
    let base : Path := ⟨['/', 'c']⟩
    let empty : Disk := { tree := { entries := [([['c']], .directory)] } }
    let resolver := (Machine.resolver base sources).watched
    let before := (resolver.replies [(.season ⟨"t", "a", 1⟩, false)]
      ⟨{ disk := (JsonStore.make base none empty).2, rest := 0 }, []⟩).2
    let given := resolver.getSeason ⟨"T", "a", 1⟩ false before
    let last := resolver.getEpisode ⟨⟨"T", "a", 1⟩, false, 1⟩ true given.2
    Faultless last.2.calls ∧ given.1 = .ok (some season) ∧
      last.1 ≠ .ok (season.numbered? false 1) := by
  decide +kernel

end MediaShelf
