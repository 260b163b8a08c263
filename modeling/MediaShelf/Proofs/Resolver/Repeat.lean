import Mathlib.Data.List.Find
import MediaShelf.Proofs.Resolver.Process

/-!
# Asking again for an episode

A look-up that goes through a season gives the first entry that has the number. The entries of the
season are then written into the memory one after the other, so that from then on the memory gives
the last entry that has the number. The two are the same wherever the season has only one, and a
number that the season does not have stays unknown. After one look-up, then, the next one changes
nothing any more and gives what all later ones give; it gives what the first one gave if the season
has no two entries for the number.

## Main definitions

* `Season.Labelled` — a season whose entries carry its key and the right kind
* `Season.lastNumbered?` — the last entry that has a number
* `Steady` — how the stores behind the memory behave for an episode
* `Available` — the seasons that a later store has or a source gives

## Main results

* `MemoryStore.findEpisode?_keepSeason` — what the memory gives once a season was written into it
* `getEpisode_twice` — the second look-up of an episode, and all later ones
-/

namespace MediaShelf

variable {ω σ α : Type}

/-! ### Seasons whose entries may share numbers -/

namespace Season

variable {season : Season} {key : EpisodeKey} {e : Episode}

/-- The specials of a season, or its regular episodes. -/
def entries (season : Season) (special : Bool) : List Episode :=
  if special then season.specials else season.episodes

/-- The last entry of a season for a number, among its specials or its regular episodes. -/
def lastNumbered? (season : Season) (special : Bool) (number : UInt32) : Option Episode :=
  (season.entries special).reverse.find? (·.covers number)

/-- The season has the key, and so do its entries, each with the kind that it is listed as. -/
structure Labelled (season : Season) (key : SeasonKey) : Prop where
  seasonKey : ∀ e ∈ season.episodes ++ season.specials, e.seasonKey = key
  own : season.key = key
  episodes : ∀ e ∈ season.episodes, e.special = false
  specials : ∀ e ∈ season.specials, e.special = true

instance (season : Season) (key : SeasonKey) : Decidable (season.Labelled key) :=
  decidable_of_iff
    ((∀ e ∈ season.episodes ++ season.specials, e.seasonKey = key) ∧ season.key = key ∧
      (∀ e ∈ season.episodes, e.special = false) ∧ ∀ e ∈ season.specials, e.special = true)
    ⟨fun h => ⟨h.1, h.2.1, h.2.2.1, h.2.2.2⟩, fun h => ⟨h.seasonKey, h.own, h.episodes, h.specials⟩⟩

theorem numbered?_eq_find? (season : Season) (special : Bool) (number : UInt32) :
    season.numbered? special number = (season.entries special).find? (·.covers number) := by
  cases special <;> rfl

/-- A number has a last entry exactly if it has a first one. -/
theorem lastNumbered?_eq_none_iff {special : Bool} {number : UInt32} :
    season.lastNumbered? special number = none ↔ season.numbered? special number = none := by
  -- neither of them depends on the order of the entries
  rw [lastNumbered?, numbered?_eq_find?, List.find?_eq_none, List.find?_eq_none]
  simp only [List.mem_reverse]

/-- An entry has a key exactly if it is of its kind and has its number. -/
theorem Labelled.mem_keys_iff (h : season.Labelled key.season)
    (he : e ∈ season.episodes ++ season.specials) :
    key ∈ e.keys ↔ e.special = key.special ∧ e.covers key.number := by
  rw [Episode.keys, List.mem_map, h.seasonKey e he, Episode.covers, List.contains_iff_mem]
  constructor
  · intro hkey
    obtain ⟨number, hnumber, hsame⟩ := hkey
    rw [← hsame]
    exact ⟨rfl, hnumber⟩
  · intro hkey
    exact ⟨key.number, hkey.2, by rw [hkey.1]⟩

/-- Of all entries that have a key, the last is the last one of its kind with its number. -/
theorem Labelled.find?_reverse (h : season.Labelled key.season) :
    (season.episodes ++ season.specials).reverse.find? (fun e => decide (key ∈ e.keys)) =
      season.lastNumbered? key.special key.number := by
  have hepisode : ∀ e ∈ season.episodes.reverse,
      decide (key ∈ e.keys) = (key.special == false && e.covers key.number) := by
    intro e he
    have he := List.mem_reverse.mp he
    rw [Bool.eq_iff_iff, decide_eq_true_iff, h.mem_keys_iff (List.mem_append_left _ he),
      h.episodes e he, Bool.and_eq_true, beq_iff_eq, eq_comm]
  have hspecial : ∀ e ∈ season.specials.reverse,
      decide (key ∈ e.keys) = (key.special == true && e.covers key.number) := by
    intro e he
    have he := List.mem_reverse.mp he
    rw [Bool.eq_iff_iff, decide_eq_true_iff, h.mem_keys_iff (List.mem_append_right _ he),
      h.specials e he, Bool.and_eq_true, beq_iff_eq, eq_comm]
  rw [List.reverse_append, List.find?_append, List.find?_congr hepisode, List.find?_congr hspecial]
  -- only the entries of the kind that is asked for can have the key
  have hother (entries : List Episode) : entries.find? (fun _ => false) = none := by simp
  cases hkind : key.special with
  | false => simp [lastNumbered?, entries, hother]
  | true => simp [lastNumbered?, entries, hother]

/-- What a season gives for a number has the key. -/
theorem Labelled.mem_keys (h : season.Labelled key.season)
    (hfound : season.numbered? key.special key.number = some e) : key ∈ e.keys := by
  have hkind : e.special = key.special := by
    rw [numbered?_eq_find?] at hfound
    have hmem := List.mem_of_find?_eq_some hfound
    cases hspecial : key.special with
    | false => exact h.episodes e (by simpa [entries, hspecial] using hmem)
    | true => exact h.specials e (by simpa [entries, hspecial] using hmem)
  obtain ⟨hmem, hnumber⟩ := mem_of_numbered? hfound
  exact (h.mem_keys_iff hmem).mpr ⟨hkind, List.contains_iff_mem.mpr hnumber⟩

/-- An entry of a season without the number does not have the key. -/
theorem Labelled.not_mem_keys (h : season.Labelled key.season)
    (hnone : season.numbered? key.special key.number = none)
    (he : e ∈ season.episodes ++ season.specials) : key ∉ e.keys := by
  rw [← lastNumbered?_eq_none_iff, ← h.find?_reverse, List.find?_eq_none] at hnone
  simpa using hnone e (List.mem_reverse.mpr he)

end Season

namespace MemoryStore

variable {store : MemoryStore} {season : Season} {key : EpisodeKey}

/-- The store with entries put into it one after the other. -/
def putEpisodes (store : MemoryStore) (entries : List Episode) : MemoryStore :=
  entries.foldl putEpisode store

/-- The last entry that has a key is found under it. -/
theorem episodes_putEpisodes {entries : List Episode} :
    (store.putEpisodes entries).episodes.lookup key =
      (entries.reverse.find? fun e => decide (key ∈ e.keys)).or (store.episodes.lookup key) := by
  -- each entry hides what the store had under its keys, so the store varies
  induction entries generalizing store with
  | nil => rfl
  | cons e entries ih =>
    rw [putEpisodes, List.foldl_cons, ← putEpisodes, ih, List.reverse_cons, List.find?_append,
      lookup_putEpisode, Option.or_assoc]
    by_cases hkey : key ∈ e.keys <;> simp [hkey]

theorem seasons_putEpisodes {entries : List Episode} :
    (store.putEpisodes entries).seasons = store.seasons := by
  induction entries generalizing store with
  | nil => rfl
  | cons e entries ih => exact ih

/-- The store with a season and its entries. -/
def keepSeason (store : MemoryStore) (season : Season) : MemoryStore :=
  (store.putSeason season).putEpisodes (season.episodes ++ season.specials)

theorem seasons_keepSeason : (store.keepSeason season).seasons.lookup season.key = some season := by
  rw [keepSeason, seasons_putEpisodes, seasons_putSeason, if_pos rfl]

/-- Once a season was written, the last entry that has a number is found under it. -/
theorem findEpisode?_keepSeason (h : season.Labelled key.season) :
    (store.keepSeason season).findEpisode? key =
      season.lastNumbered? key.special key.number := by
  have hown : (store.keepSeason season).episodes.lookup key =
      season.lastNumbered? key.special key.number := by
    rw [keepSeason, episodes_putEpisodes, h.find?_reverse, episodes_putSeason, if_pos h.own.symm,
      Option.or_none]
  rw [findEpisode?, hown, ← h.own, seasons_keepSeason, Option.bind_some]
  cases hlast : season.lastNumbered? key.special key.number with
  | some e => rfl
  | none => exact Season.lastNumbered?_eq_none_iff.mp hlast

end MemoryStore

/-! ### Look-ups that are over -/

open Process

/-- Stores that have no record and stay as they are give none. -/
theorem readTiers_missed {read : Tier (StateM σ) → StateM σ (Except StoreError (Option α))}
    {write : Tier (StateM σ) → α → StateM σ (Except StoreError Unit)}
    {tiers : List (Tier (StateM σ))} {s : σ}
    (h : ∀ tier ∈ tiers, (read tier s).2 = s ∧ ∀ value, (read tier s).1 ≠ .ok (some value)) :
    readTiers read write tiers s = (none, s) := by
  have hread : ∀ tier ∈ tiers,
      Leads (· = s) (read tier) (AfterRead (fun _ _ => False) (· = s)) := by
    intro tier htier after hafter
    obtain ⟨hstays, hnone⟩ := h tier htier
    rw [hafter]
    match (read tier s).1, hnone with
    | .error _, _ => exact hstays
    | .ok none, _ => exact hstays
    | .ok (some value), hnone => exact hnone value rfl
  have hstores : Leads (· = s) (readTiers read write tiers)
      fun found => found.elim (· = s) fun _ _ => False :=
    .readTiers hread fun _ _ _ _ hfalse => hfalse.elim
  have hfound := hstores s rfl
  match hrun : readTiers read write tiers s with
  | (none, after) =>
    rw [hrun] at hfound
    exact Prod.ext rfl hfound
  | (some value, after) =>
    rw [hrun] at hfound
    exact hfound.elim

section Known

variable {later : List (Tier (StateM ω))} {sources : List (Source (StateM ω))} {process : Process ω}
  {key : EpisodeKey} {refresh : Bool}

/-- The memory is read first, the other stores unless they are to be passed over. -/
theorem readable_resolver (later : List (Tier (StateM ω))) (sources : List (Source (StateM ω)))
    (refresh : Bool) :
    (resolver later sources).readable refresh =
      memoryTier :: if refresh then [] else others later := by
  cases refresh <;> rfl

/-- A season in the memory is what a request for it gives. -/
theorem getSeason_known {key : SeasonKey} {season : Season}
    (h : process.memory.seasons.lookup key = some season) :
    (resolver later sources).getSeason key refresh process = (.ok (some season), process) := by
  have hread : memoryTier.getSeason key process = (.ok (some season), process) :=
    Prod.ext (congrArg Except.ok h) rfl
  rw [Resolver.getSeason, Resolver.resolve, readable_resolver]
  simp only [readTiers, readTiersFrom, Bind.bind, StateT.bind]
  rw [hread]
  rfl

/-- An episode that the memory finds is what a request for it gives. -/
theorem getEpisode_known {e : Episode} (h : process.memory.findEpisode? key = some e) :
    (resolver later sources).getEpisode key refresh process = (.ok (some e), process) := by
  have hread : memoryTier.getEpisode key process = (.ok (some e), process) :=
    Prod.ext (congrArg Except.ok h) rfl
  rw [Resolver.getEpisode, readable_resolver]
  simp only [readTiers, readTiersFrom, Bind.bind, StateT.bind]
  rw [hread]
  rfl

end Known

/-! ### The first look-up -/

/-- None of the stores gives the episode in the world. -/
def Unknown (tiers : List (Tier (StateM ω))) (key : EpisodeKey) (world : ω) : Prop :=
  ∀ tier ∈ tiers, ∀ e, (tier.getEpisode key world).1 ≠ .ok (some e)

/-- How stores behave for an episode in worlds as in `inv`: look-ups change nothing and give records
with the keys they were asked for, and a season that does not have the number, nor any entry of it,
leaves the episode unknown where it was. -/
structure Steady (later : List (Tier (StateM ω))) (key : EpisodeKey) (inv : ω → Prop) : Prop where
  look : ∀ tier ∈ later, ∀ world, inv world → (tier.getEpisode key world).2 = world
  lookSeason : ∀ tier ∈ later, ∀ world, inv world → (tier.getSeason key.season world).2 = world
  episode : ∀ tier ∈ later, ∀ world, inv world → ∀ e,
    (tier.getEpisode key world).1 = .ok (some e) → key ∈ e.keys
  season : ∀ tier ∈ later, ∀ world, inv world → ∀ season,
    (tier.getSeason key.season world).1 = .ok (some season) → season.Labelled key.season
  cacheSeason : ∀ tier ∈ later, ∀ season, season.Labelled key.season →
    season.numbered? key.special key.number = none →
      Keeps (fun world => inv world ∧ Unknown later key world) (tier.cacheSeason season)
        fun _ => True
  cacheEpisode : ∀ tier ∈ later, ∀ e : Episode, e.seasonKey = key.season → key ∉ e.keys →
    Keeps (fun world => inv world ∧ Unknown later key world) (tier.cacheEpisode e) fun _ => True

/-- The seasons of a source carry its id and the keys they were asked for, and so do their
entries, each with the kind that it is listed as. -/
def Source.Answers.Labelled (id : String) (answers : Source.Answers) : Prop :=
  ∀ {showId n season}, answers.getSeason showId n = .ok (some season) →
    season.Labelled ⟨id, showId, n⟩

/-- The season is what a store has or what a source gives for the key. -/
def Available (later : List (Tier (StateM ω))) (catalogs : List (String × Source.Answers))
    (key : SeasonKey) (world : ω) (season : Season) : Prop :=
  (∃ tier ∈ later, (tier.getSeason key world).1 = .ok (some season)) ∨
    ∃ catalog ∈ catalogs, catalog.1 = key.sourceId ∧
      catalog.2.getSeason key.showId key.season = .ok (some season)

/-- The memory has the season and finds its entries, and if it does not have the number, no other
store knows the episode. -/
structure KeptSeason (later : List (Tier (StateM ω))) (key : EpisodeKey) (inv : ω → Prop)
    (refresh : Bool) (season : Season) (process : Process ω) : Prop where
  labelled : season.Labelled key.season
  known : process.memory.seasons.lookup key.season = some season
  found : process.memory.findEpisode? key = season.lastNumbered? key.special key.number
  silent : season.numbered? key.special key.number = none → refresh = false →
    inv process.rest ∧ Unknown later key process.rest

section First

variable {later : List (Tier (StateM ω))} {catalogs : List (String × Source.Answers)}
  {sources : List (Source (StateM ω))} {process : Process ω} {key : EpisodeKey} {inv : ω → Prop}
  {refresh : Bool}

theorem onRest_eq {effect : StateM ω α} (h : (effect process.rest).2 = process.rest) :
    onRest effect process = ((effect process.rest).1, process) := by
  show ((effect process.rest).1, { process with rest := (effect process.rest).2 }) = _
  rw [h]

/-- The memory finds the episode. -/
def FindsEpisode (key : EpisodeKey) (e : Episode) (process : Process ω) : Prop :=
  process.memory.findEpisode? key = some e

/-- Nothing has happened, and neither the memory nor the stores that were asked have the episode. -/
def MissesEpisode (process : Process ω) (key : EpisodeKey)
    (asked : List (Tier (StateM (Process ω)))) (after : Process ω) : Prop :=
  after = process ∧ process.memory.findEpisode? key = none ∧
    ∀ tier ∈ asked, ∀ e, (tier.getEpisode key process).1 ≠ .ok (some e)

/-- The stores that are asked behind the memory lie in the rest of the world. -/
theorem exists_of_mem_asked {tier : Tier (StateM (Process ω))}
    (h : tier ∈ if refresh then [] else others later) :
    refresh = false ∧ ∃ own ∈ later, tier = own.lift onRest := by
  cases refresh with
  | true => cases h
  | false =>
    obtain ⟨own, hown, rfl⟩ := List.mem_map.mp h
    exact ⟨rfl, own, hown, rfl⟩

/-- An episode that the memory finds is given, and nothing changes. -/
theorem leads_getEpisode_memoryTier : Leads (· = process) (memoryTier.getEpisode key)
    (AfterRead (FindsEpisode key) (MissesEpisode process key [])) := by
  intro after hafter
  rw [hafter]
  show AfterRead _ _ (.ok (process.memory.findEpisode? key)) process
  cases hfind : process.memory.findEpisode? key with
  | none => exact ⟨rfl, hfind, by simp⟩
  | some e => exact hfind

/-- Another store gives an episode with the key, or it has missed it as those before it have. -/
theorem Steady.leads_getEpisode_asked (h : Steady later key inv)
    (hinv : refresh = false → inv process.rest) (before : List (Tier (StateM (Process ω))))
    {tier : Tier (StateM (Process ω))} (htier : tier ∈ if refresh then [] else others later) :
    Leads (MissesEpisode process key before) (tier.getEpisode key)
      (AfterRead (fun e _ => key ∈ e.keys) (MissesEpisode process key (before ++ [tier]))) := by
  intro after hafter
  obtain ⟨hstill, hnone, hbefore⟩ := hafter
  rw [hstill]
  obtain ⟨hrefresh, own, hown, rfl⟩ := exists_of_mem_asked htier
  have hrun : (own.lift onRest).getEpisode key process =
      ((own.getEpisode key process.rest).1, process) :=
    onRest_eq (h.look own hown _ (hinv hrefresh))
  have hkeys := h.episode own hown _ (hinv hrefresh)
  have hmissed : (∀ e, (own.getEpisode key process.rest).1 ≠ .ok (some e)) →
      MissesEpisode process key (before ++ [own.lift onRest]) process := by
    intro hown
    refine ⟨rfl, hnone, fun tier htier => ?_⟩
    rcases List.mem_append.mp htier with htier | htier
    · exact hbefore tier htier
    · rw [List.mem_singleton.mp htier, hrun]
      exact hown
  rw [hrun]
  match (own.getEpisode key process.rest).1, hkeys, hmissed with
  | .error _, _, hmissed => exact hmissed nofun
  | .ok none, _, hmissed => exact hmissed nofun
  | .ok (some e), hkeys, _ => exact hkeys e rfl

/-- Either nothing has happened and no store that is asked has the episode, or the memory finds it
then. -/
theorem Steady.leads_readEpisode (h : Steady later key inv)
    (hinv : refresh = false → inv process.rest) :
    Leads (· = process)
      (readTiers (·.getEpisode key) (·.cacheEpisode ·) ((resolver later sources).readable refresh))
      fun found => found.elim
        (MissesEpisode process key (if refresh then [] else others later)) (FindsEpisode key) := by
  have htop (e : Episode) : Leads (fun _ => key ∈ e.keys)
      (memoryTier.cacheEpisode e : StateM (Process ω) _) fun _ => FindsEpisode key e := by
    intro after hkey
    show (after.memory.putEpisode e).findEpisode? key = some e
    rw [MemoryStore.findEpisode?, MemoryStore.lookup_putEpisode, if_pos hkey, Option.some_or]
  have hwrite : ∀ tier ∈ (if refresh then [] else others later), ∀ e : Episode,
      Keeps (FindsEpisode key e) (tier.cacheEpisode e) fun _ => True := by
    intro tier htier e after hfound
    obtain ⟨-, own, -, rfl⟩ := exists_of_mem_asked htier
    exact ⟨trivial, hfound⟩
  rw [readable_resolver]
  exact Leads.readTop (MissesEpisode process key) leads_getEpisode_memoryTier
    (fun before _ htier => h.leads_getEpisode_asked hinv before htier) htop
    (fun tier htier => hwrite tier (List.dropLast_subset _ htier)) fun _ _ hfound => hfound

/-- Where no other store that is asked has the episode, it is unknown. -/
theorem MissesEpisode.unknown {after : Process ω}
    (h : MissesEpisode process key (if refresh then [] else others later) after)
    (hrefresh : refresh = false) : Unknown later key process.rest := by
  intro tier htier e
  subst hrefresh
  exact h.2.2 _ (List.mem_map_of_mem htier) e

/-- A season on its way into the memory. -/
structure NewSeason (later : List (Tier (StateM ω))) (catalogs : List (String × Source.Answers))
    (key : EpisodeKey) (inv : ω → Prop) (refresh : Bool) (world : ω) (season : Season)
    (process : Process ω) : Prop where
  available : Available later catalogs key.season world season
  labelled : season.Labelled key.season
  silent : refresh = false → inv process.rest ∧ Unknown later key process.rest

/-- A season that was put into the memory. -/
def OldSeason (later : List (Tier (StateM ω))) (catalogs : List (String × Source.Answers))
    (key : EpisodeKey) (inv : ω → Prop) (refresh : Bool) (world : ω) (season : Season)
    (process : Process ω) : Prop :=
  Available later catalogs key.season world season ∧
    KeptSeason later key inv refresh season process

/-- What a request for a season has done: nothing, or it has put its answer into the memory. -/
def AfterSeason (later : List (Tier (StateM ω))) (catalogs : List (String × Source.Answers))
    (key : EpisodeKey) (inv : ω → Prop) (refresh : Bool) (process : Process ω)
    (answer : Except SourceError (Option Season)) (after : Process ω) : Prop :=
  after = process ∨ ∃ season, answer = .ok (some season) ∧
    OldSeason later catalogs key inv refresh process.rest season after

theorem writeEpisodes_memoryTier (entries : List Episode) (process : Process ω) :
    writeEpisodes memoryTier entries process =
      (.ok (), { process with memory := process.memory.putEpisodes entries }) := by
  induction entries generalizing process with
  | nil => rfl
  | cons e entries ih => exact ih { process with memory := process.memory.putEpisode e }

/-- A season that is written into the memory is kept there with its entries. -/
theorem leads_writeSeason_memoryTier (world : ω) (season : Season) :
    Leads (NewSeason later catalogs key inv refresh world season) (writeSeason memoryTier season)
      fun _ => OldSeason later catalogs key inv refresh world season := by
  intro process hnew
  have hrun : writeSeason memoryTier season process =
      (.ok (), { process with memory := process.memory.keepSeason season }) :=
    writeEpisodes_memoryTier (season.episodes ++ season.specials)
      { process with memory := process.memory.putSeason season }
  rw [hrun]
  refine ⟨hnew.available, hnew.labelled, ?_, ?_, fun _ => hnew.silent⟩
  · rw [← hnew.labelled.own]
    exact MemoryStore.seasons_keepSeason
  · exact MemoryStore.findEpisode?_keepSeason hnew.labelled

/-- Other stores that take the season leave the memory alone, and an episode that it does not have
stays unknown. -/
theorem Steady.keeps_writeSeason (h : Steady later key inv) (world : ω) (season : Season)
    {tier : Tier (StateM (Process ω))} (htier : tier ∈ others later) :
    Keeps (OldSeason later catalogs key inv refresh world season) (writeSeason tier season)
      fun _ => True := by
  obtain ⟨own, hown, rfl⟩ := List.mem_map.mp htier
  -- what happens to the rest of the world never reaches the memory
  refine Keeps.writeSeason ?_ ?_
  · intro process hold
    obtain ⟨havailable, hkept⟩ := hold
    refine ⟨trivial, havailable, hkept.labelled, hkept.known, hkept.found, ?_⟩
    intro hnone hrefresh
    exact (h.cacheSeason own hown season hkept.labelled hnone _ (hkept.silent hnone hrefresh)).2
  · intro e he process hold
    obtain ⟨havailable, hkept⟩ := hold
    refine ⟨trivial, havailable, hkept.labelled, hkept.known, hkept.found, ?_⟩
    intro hnone hrefresh
    exact (h.cacheEpisode own hown e (hkept.labelled.seasonKey e he)
      (hkept.labelled.not_mem_keys hnone he) _ (hkept.silent hnone hrefresh)).2

/-- A season that is in the memory is given, and nothing changes. -/
theorem leads_getSeason_memoryTier : Leads (· = process) (memoryTier.getSeason key.season)
    (AfterRead (fun season => AfterSeason later catalogs key inv refresh process
      (.ok (some season))) (· = process)) := by
  intro after hafter
  rw [hafter]
  show AfterRead _ _ (.ok (process.memory.seasons.lookup key.season)) process
  cases process.memory.seasons.lookup key.season with
  | none => rfl
  | some season => exact .inl rfl

/-- A season that another store gives is on its way into the memory. -/
theorem Steady.leads_getSeason_asked (h : Steady later key inv)
    (hsilent : refresh = false → inv process.rest ∧ Unknown later key process.rest)
    {tier : Tier (StateM (Process ω))} (htier : tier ∈ if refresh then [] else others later) :
    Leads (· = process) (tier.getSeason key.season)
      (AfterRead (NewSeason later catalogs key inv refresh process.rest) (· = process)) := by
  intro after hafter
  rw [hafter]
  obtain ⟨hrefresh, own, hown, rfl⟩ := exists_of_mem_asked htier
  -- a store that is asked finds the rest of the world as it was at the start
  have hinv := (hsilent hrefresh).1
  have hrun : (own.lift onRest).getSeason key.season process =
      ((own.getSeason key.season process.rest).1, process) :=
    onRest_eq (h.lookSeason own hown _ hinv)
  rw [hrun]
  match hanswer : (own.getSeason key.season process.rest).1 with
  | .error _ => rfl
  | .ok none => rfl
  | .ok (some season) =>
    exact ⟨.inl ⟨own, hown, hanswer⟩, h.season own hown _ hinv season hanswer, hsilent⟩

/-- So is a season that a source gives. -/
theorem leads_getSeason_source (hcatalogs : ∀ catalog ∈ catalogs, catalog.2.Labelled catalog.1)
    (hsilent : refresh = false → inv process.rest ∧ Unknown later key process.rest)
    {source : Source (StateM (Process ω))}
    (hfind : (resolver later (sourcesOf catalogs)).sources.find?
      (·.sourceId == key.season.sourceId) = some source) :
    Leads (· = process) (source.getSeason key.season.showId key.season.season)
      (AfterFetch (NewSeason later catalogs key inv refresh process.rest)
        (AfterSeason later catalogs key inv refresh process)) := by
  intro after hafter
  rw [hafter]
  have hasked := List.find?_some hfind
  obtain ⟨plain, hplain, rfl⟩ := List.mem_map.mp (List.mem_of_find?_eq_some hfind)
  obtain ⟨catalog, hcatalog, rfl⟩ := List.mem_map.mp hplain
  have hid : catalog.1 = key.season.sourceId := eq_of_beq hasked
  -- what a source gives is noted, which the stores do not see
  have hrun {answer : Except SourceError (Option Season)}
      (hanswer : catalog.2.getSeason key.season.showId key.season.season = answer) :
      (source (Source.ofAnswers catalog.1 catalog.2)).getSeason key.season.showId
          key.season.season process =
        noting (.season ⟨catalog.1, key.season.showId, key.season.season⟩) (pure answer)
          process := by
    rw [← hanswer]
    rfl
  match hanswer : catalog.2.getSeason key.season.showId key.season.season with
  | .error _ =>
    rw [hrun hanswer]
    exact .inl rfl
  | .ok none =>
    rw [hrun hanswer]
    exact .inl rfl
  | .ok (some season) =>
    have hlabelled := hcatalogs catalog hcatalog hanswer
    rw [hid] at hlabelled
    rw [hrun hanswer]
    exact ⟨.inr ⟨catalog, hcatalog, hid, hanswer⟩, hlabelled, hsilent⟩

/-- A request for the season changes nothing, or the season is in the memory then. -/
theorem Steady.leads_getSeason (h : Steady later key inv)
    (hcatalogs : ∀ catalog ∈ catalogs, catalog.2.Labelled catalog.1)
    (hsilent : refresh = false → inv process.rest ∧ Unknown later key process.rest) :
    Leads (· = process) ((resolver later (sourcesOf catalogs)).getSeason key.season refresh)
      (AfterSeason later catalogs key inv refresh process) := by
  have hstores : Leads (· = process)
      (readTiers (·.getSeason key.season) writeSeason
        ((resolver later (sourcesOf catalogs)).readable refresh))
      fun found => found.elim (· = process) fun season =>
        AfterSeason later catalogs key inv refresh process (.ok (some season)) := by
    rw [readable_resolver]
    refine Leads.readTop (fun _ => (· = process)) leads_getSeason_memoryTier
      (fun _ _ htier => h.leads_getSeason_asked hsilent htier)
      (leads_writeSeason_memoryTier process.rest) ?_ fun season _ hold => .inr ⟨season, rfl, hold⟩
    intro tier htier season
    obtain ⟨-, own, hown, rfl⟩ := exists_of_mem_asked (List.dropLast_subset _ htier)
    exact h.keeps_writeSeason process.rest season (List.mem_map_of_mem hown)
  refine Leads.resolve hstores (fun _ hstill => .inl hstill)
    (fun _ hfind => leads_getSeason_source hcatalogs hsilent hfind) fun season => ?_
  refine (leads_writeSeason_memoryTier process.rest season).bind fun _ => ?_
  have hkeeps : ∀ tier ∈ others later,
      Keeps (OldSeason later catalogs key inv refresh process.rest season)
        (writeSeason tier season) fun _ => True :=
    fun _ htier => h.keeps_writeSeason process.rest season htier
  exact (Keeps.populate hkeeps).leads fun _ _ _ hold => .inr ⟨season, rfl, hold⟩

/-! ### The second look-up -/

/-- An episode that the season in the memory does not have, and no other store, is not found, and
nothing changes. -/
theorem Steady.getEpisode_kept (h : Steady later key inv) {season : Season}
    (hkept : KeptSeason later key inv refresh season process)
    (hnone : season.numbered? key.special key.number = none) :
    (resolver later sources).getEpisode key refresh process = (.ok none, process) := by
  have hmemory : process.memory.findEpisode? key = none :=
    hkept.found.trans (Season.lastNumbered?_eq_none_iff.mpr hnone)
  have hmissed : readTiers (·.getEpisode key) (·.cacheEpisode ·)
      ((resolver later sources).readable refresh) process = (none, process) := by
    rw [readable_resolver]
    refine readTiers_missed fun tier htier => ?_
    rcases List.mem_cons.mp htier with rfl | htier
    · refine ⟨rfl, fun e he => ?_⟩
      cases hmemory.symm.trans (Except.ok.inj he)
    · obtain ⟨hrefresh, own, hown, rfl⟩ := exists_of_mem_asked htier
      obtain ⟨hinv, hunknown⟩ := hkept.silent hnone hrefresh
      have hrun : (own.lift onRest).getEpisode key process =
          ((own.getEpisode key process.rest).1, process) :=
        onRest_eq (h.look own hown _ hinv)
      rw [hrun]
      exact ⟨rfl, hunknown own hown⟩
  simp only [Resolver.getEpisode, Bind.bind, StateT.bind]
  rw [hmissed]
  show StateT.bind _ _ process = _
  simp only [StateT.bind, getSeason_known hkept.known]
  exact congrArg (fun found => (Except.ok found, process)) hnone

/-- A look-up of an episode changes nothing, or it leads to where look-ups change nothing, with the
same answer if the season that it goes through has no other entry for the number. -/
theorem Steady.leads_getEpisode (h : Steady later key inv)
    (hcatalogs : ∀ catalog ∈ catalogs, catalog.2.Labelled catalog.1)
    (hinv : refresh = false → inv process.rest) :
    Leads (· = process) ((resolver later (sourcesOf catalogs)).getEpisode key refresh)
      fun answer after => after = process ∨ ∃ again,
        (resolver later (sourcesOf catalogs)).getEpisode key refresh after = (again, after) ∧
          ((∀ season, Available later catalogs key.season process.rest season →
            season.lastNumbered? key.special key.number =
              season.numbered? key.special key.number) → again = answer) := by
  refine (h.leads_readEpisode hinv).bind fun found => ?_
  match found with
  | some e =>
    exact .pure fun after hfound => .inr ⟨.ok (some e), getEpisode_known hfound, fun _ => rfl⟩
  | none =>
    -- nothing has happened so far
    refine Leads.mono_left (.of_and fun hunknown => ?_) fun _ hmisses =>
      ⟨fun hrefresh => hmisses.unknown hrefresh, hmisses.1⟩
    have hsilent (hrefresh : refresh = false) : inv process.rest ∧ Unknown later key process.rest :=
      ⟨hinv hrefresh, hunknown hrefresh⟩
    refine (h.leads_getSeason hcatalogs hsilent).bind fun answer => ?_
    refine .pure fun after hafter => ?_
    rcases hafter with hstill | ⟨season, rfl, havailable, hkept⟩
    · exact .inl hstill
    · right
      cases hfound : season.lastNumbered? key.special key.number with
      | none =>
        have hnone := Season.lastNumbered?_eq_none_iff.mp hfound
        refine ⟨.ok none, h.getEpisode_kept hkept hnone, fun _ => ?_⟩
        exact congrArg Except.ok hnone.symm
      | some e =>
        refine ⟨.ok (some e), getEpisode_known (hkept.found.trans hfound), fun hsettled => ?_⟩
        exact congrArg Except.ok (hfound.symm.trans (hsettled season havailable))

/-- The second look-up of an episode changes nothing any more, so that all later ones give what it
gave; and it gives what the first one gave if no season that is there to be had has another entry
for the number behind the first one. -/
theorem getEpisode_twice (h : Steady later key inv)
    (hcatalogs : ∀ catalog ∈ catalogs, catalog.2.Labelled catalog.1)
    (process : Process ω) (hinv : inv process.rest) (refresh : Bool) :
    let ask := (resolver later (sourcesOf catalogs)).getEpisode key refresh
    let first := ask process
    let second := ask first.2
    ask second.2 = second ∧
      ((∀ season, Available later catalogs key.season process.rest season →
        season.lastNumbered? key.special key.number =
          season.numbered? key.special key.number) → second.1 = first.1) := by
  intro ask first second
  rcases h.leads_getEpisode hcatalogs (fun _ => hinv) process rfl with hstill | hover
  · -- where nothing has changed, the second look-up is the first one once more
    have hsecond : second = first := congrArg ask hstill
    refine ⟨?_, fun _ => congrArg Prod.fst hsecond⟩
    rw [hsecond]
    exact hsecond
  · obtain ⟨again, hagain, hsame⟩ := hover
    have hsecond : second = (again, first.2) := hagain
    rw [hsecond]
    exact ⟨hagain, hsame⟩

end First

/-! ### A second memory behind the first -/

namespace MemoryStore

variable {store : MemoryStore} {key : EpisodeKey}

/-- What the store has under the key of an episode, and under that of its season, is right. -/
structure RightFor (key : EpisodeKey) (store : MemoryStore) : Prop where
  episode : ∀ e, store.episodes.lookup key = some e → key ∈ e.keys
  season : ∀ season, store.seasons.lookup key.season = some season → season.Labelled key.season

theorem rightFor_empty (key : EpisodeKey) : RightFor key {} where
  episode _ h := nomatch h
  season _ h := nomatch h

theorem RightFor.mem_keys (h : RightFor key store) {e : Episode}
    (hfound : store.findEpisode? key = some e) : key ∈ e.keys := by
  rw [findEpisode?, Option.or_eq_some_iff] at hfound
  rcases hfound with hown | ⟨-, hseason⟩
  · exact h.episode e hown
  · obtain ⟨season, hkept, hnumbered⟩ := Option.bind_eq_some_iff.mp hseason
    exact (h.season season hkept).mem_keys hnumbered

theorem unknown_tier : Unknown [tier] key store ↔ store.findEpisode? key = none := by
  rw [Option.eq_none_iff_forall_ne_some]
  simp only [Unknown, List.mem_singleton, forall_eq]
  exact forall_congr' fun e => not_congr ⟨Except.ok.inj, congrArg Except.ok⟩

theorem rightFor_putSeason (store : MemoryStore) {season : Season}
    (hlabelled : season.Labelled key.season)
    (hnone : season.numbered? key.special key.number = none) :
    RightFor key (store.putSeason season) ∧ (store.putSeason season).findEpisode? key = none := by
  have hepisode : (store.putSeason season).episodes.lookup key = none := by
    rw [episodes_putSeason, if_pos hlabelled.own.symm]
  have hseason : (store.putSeason season).seasons.lookup key.season = some season := by
    rw [seasons_putSeason, if_pos hlabelled.own.symm]
  refine ⟨⟨?_, ?_⟩, ?_⟩
  · intro e he
    cases hepisode.symm.trans he
  · intro kept hkept
    obtain rfl := Option.some.inj (hseason.symm.trans hkept)
    exact hlabelled
  · rw [findEpisode?, hepisode, hseason]
    exact hnone

theorem RightFor.putEpisode (h : RightFor key store) {e : Episode} (hkey : key ∉ e.keys) :
    RightFor key (store.putEpisode e) ∧
      (store.putEpisode e).findEpisode? key = store.findEpisode? key := by
  have hepisode : (store.putEpisode e).episodes.lookup key = store.episodes.lookup key := by
    rw [lookup_putEpisode, if_neg hkey]
  exact ⟨⟨fun other hother => h.episode other (hepisode ▸ hother), h.season⟩,
    by rw [findEpisode?, findEpisode?, hepisode]; rfl⟩

/-- A memory with right records is steady. -/
theorem steady_tier (key : EpisodeKey) : Steady [tier] key (RightFor key) where
  look := by simp [tier, reading]
  lookSeason := by simp [tier, reading]
  episode := by
    intro own hown store hright e he
    rw [List.mem_singleton.mp hown] at he
    exact hright.mem_keys (Except.ok.inj he)
  season := by
    intro own hown store hright season hseason
    rw [List.mem_singleton.mp hown] at hseason
    exact hright.season season (Except.ok.inj hseason)
  cacheSeason := by
    intro own hown season hlabelled hnone store hold
    rw [List.mem_singleton.mp hown]
    obtain ⟨hright, hunknown⟩ := rightFor_putSeason store hlabelled hnone
    exact ⟨trivial, hright, unknown_tier.mpr hunknown⟩
  cacheEpisode := by
    intro own hown e _ hkey store hold
    rw [List.mem_singleton.mp hown]
    obtain ⟨hright, hfound⟩ := hold.1.putEpisode hkey
    exact ⟨trivial, hright, unknown_tier.mpr (hfound.trans (unknown_tier.mp hold.2))⟩

end MemoryStore

/-! ### Entries that share a number -/

/-- A catalog with one season. -/
def catalogOf (season : Season) : Source.Answers where
  getShow _ := .ok none
  getSeason showId n := .ok (if season.showId = showId ∧ season.seasonNumber = n then some season
    else none)
  getFilm _ := .ok none
  searchMedia _ := .ok none

theorem labelled_catalogOf {season : Season} (h : season.Labelled season.key) :
    (catalogOf season).Labelled season.sourceId := by
  intro showId n given hgiven
  have hgiven := Except.ok.inj hgiven
  split at hgiven
  · rename_i hkey
    obtain rfl := Option.some.inj hgiven
    rw [← hkey.1, ← hkey.2]
    exact h
  · cases hgiven

/-- The two parts of a pilot as one episode, and the episode behind them. -/
def pilots : Season :=
  { sourceId := "tvmaze", showId := "7", seasonNumber := 1
    episodes := [
      { sourceId := "tvmaze", showId := "7", seasonNumber := 1, episodeNumbers := [1, 2]
        title := "Pilot" },
      { sourceId := "tvmaze", showId := "7", seasonNumber := 1, episodeNumbers := [3]
        title := "Tabula Rasa" }]
    specials := [] }

/-- The second part of the pilot is looked up with a second memory behind the first one. -/
theorem getEpisode_twice_pilots :
    let key : EpisodeKey := ⟨⟨"tvmaze", "7", 1⟩, false, 2⟩
    let catalogs := [("tvmaze", catalogOf pilots)]
    let ask := (resolver [MemoryStore.tier] (sourcesOf catalogs)).getEpisode key false
    let first := ask { rest := {} }
    let second := ask first.2
    Steady [MemoryStore.tier] key (MemoryStore.RightFor key) ∧
      (∀ catalog ∈ catalogs, catalog.2.Labelled catalog.1) ∧ MemoryStore.RightFor key {} ∧
      first.1 = .ok pilots.episodes.head? ∧ second.1 = first.1 ∧ ask second.2 = second := by
  intro key catalogs ask first second
  have hcatalogs : ∀ catalog ∈ catalogs, catalog.2.Labelled catalog.1 := by
    intro catalog hcatalog
    rw [List.mem_singleton.mp hcatalog]
    exact labelled_catalogOf (by decide)
  obtain ⟨hlater, hsame⟩ := getEpisode_twice (MemoryStore.steady_tier key) hcatalogs { rest := {} }
    (MemoryStore.rightFor_empty key) false
  refine ⟨MemoryStore.steady_tier key, hcatalogs, MemoryStore.rightFor_empty key, by decide,
    hsame ?_, hlater⟩
  intro season havailable
  rcases havailable with ⟨own, hown, hseason⟩ | ⟨catalog, hcatalog, -, hseason⟩
  · rw [List.mem_singleton.mp hown] at hseason
    cases hseason
  · rw [List.mem_singleton.mp hcatalog] at hseason
    obtain rfl := Option.some.inj (Except.ok.inj hseason)
    decide

/-- Of an episode that covers two numbers and another one for the second of them, the first is what
the first look-up gives, and the other what the second look-up gives. -/
theorem getEpisode_ne_of_overlap :
    let entry (numbers : List UInt32) (title : String) : Episode :=
      { sourceId := "tvmaze", showId := "7", seasonNumber := 1, episodeNumbers := numbers, title }
    let season : Season :=
      { sourceId := "tvmaze", showId := "7", seasonNumber := 1
        episodes := [entry [1, 2] "Pilot", entry [2] "Pilot (2)"], specials := [] }
    let ask := (resolver [] (sourcesOf [("tvmaze", catalogOf season)])).getEpisode
      ⟨⟨"tvmaze", "7", 1⟩, false, 2⟩ false
    let first := ask { rest := () }
    let second := ask first.2
    (catalogOf season).Labelled "tvmaze" ∧ first.1 = .ok (some (entry [1, 2] "Pilot")) ∧
      second.1 = .ok (some (entry [2] "Pilot (2)")) ∧ second.1 ≠ first.1 := by
  intro entry season ask first second
  exact ⟨labelled_catalogOf (by decide), by decide, by decide, by decide⟩

end MediaShelf
