import MediaShelf.Proofs.Resolver.Process

/-!
# What a process has resolved stays

A show, a season or a film that a resolver has given once is given again by every later request for
it, and no source gives it twice, whatever other stores hold and however sources change.

All of this is seen in the ledger. A look-up of a whole record does one of four things to it: the
reply was known, there is none, a later store knows it, or a source gives it; in the last two cases
the reply becomes known, and it was not known before. Nothing else changes the ledger, so that what
is known stays known, and whatever a source gave is known.

## Main definitions

* `Ledger.Learns` — what a look-up of a whole record does to the ledger
* `Ledger.Sound` — no source gave a record twice, and what they gave is known
* `Ledger.Grows` — what was known is known, and soundness is kept
* `Whole` — how records of one kind are read, written and asked for

## Main results

* `Whole.learns_resolve` — a request for a record learns it
* `grows_reply` — every look-up lets the ledger grow, and one of a whole record learns it
* `transcript_stable` — replies with records are final, and no record is fetched twice
-/

namespace MediaShelf

variable {ω α : Type}

/-! ### The ledger -/

namespace Ledger

variable {ledger after last : Ledger} {lookup : Lookup} {reply : Reply}

/-- What a look-up with its reply makes of the ledger. -/
inductive Learns (ledger : Ledger) (lookup : Lookup) (reply : Reply) : Ledger → Prop
  /-- The reply was known. -/
  | recalled : ledger.known lookup = some reply → Learns ledger lookup reply ledger
  /-- There is no record. -/
  | missed : ledger.known lookup = none → reply.isRecord = false → Learns ledger lookup reply ledger
  /-- Another store has the record. -/
  | copied : ledger.known lookup = none → reply.isRecord →
      Learns ledger lookup reply (ledger.learn lookup reply)
  /-- A source gives the record. -/
  | fetched : ledger.known lookup = none → reply.isRecord →
      Learns ledger lookup reply ((ledger.fetch lookup).learn lookup reply)

/-- No source has given a record twice, and the records that they gave are known. -/
structure Sound (ledger : Ledger) : Prop where
  nodup : ledger.fetched.Nodup
  known : ∀ lookup ∈ ledger.fetched, ledger.known lookup ≠ none

/-- What was known is known, and a sound ledger stays sound. -/
structure Grows (ledger after : Ledger) : Prop where
  known : ∀ lookup reply, ledger.known lookup = some reply → after.known lookup = some reply
  sound : ledger.Sound → after.Sound

theorem Grows.refl (ledger : Ledger) : ledger.Grows ledger := ⟨fun _ _ h => h, fun h => h⟩

theorem Grows.trans (h : ledger.Grows after) (h' : after.Grows last) : ledger.Grows last where
  known lookup reply hknown := h'.known lookup reply (h.known lookup reply hknown)
  sound hsound := h'.sound (h.sound hsound)

theorem known_learn {other : Lookup} : (ledger.learn lookup reply).known other =
    if other = lookup then some reply else ledger.known other :=
  Function.update_apply ..

theorem known_learn_ne_none {other : Lookup} (h : ledger.known other ≠ none) :
    (ledger.learn lookup reply).known other ≠ none := by
  rw [known_learn]
  split
  · exact Option.some_ne_none reply
  · exact h

/-- To learn what was not known changes nothing that was. -/
theorem known_learn_of_known (h : ledger.known lookup = none) {other : Lookup} {known : Reply}
    (hknown : ledger.known other = some known) :
    (ledger.learn lookup reply).known other = some known := by
  have hne : other ≠ lookup := by
    rintro rfl
    rw [h] at hknown
    cases hknown
  rw [known_learn, if_neg hne, hknown]

theorem grows_learn (h : ledger.known lookup = none) :
    ledger.Grows (ledger.learn lookup reply) where
  known _ _ := known_learn_of_known h
  sound hsound :=
    ⟨hsound.nodup, fun other hother => known_learn_ne_none (hsound.known other hother)⟩

theorem grows_fetch_learn (h : ledger.known lookup = none) :
    ledger.Grows ((ledger.fetch lookup).learn lookup reply) where
  known _ _ := known_learn_of_known h
  sound hsound := by
    -- had it been fetched before, it would be known
    have hnew : lookup ∉ ledger.fetched := fun hmem => hsound.known lookup hmem h
    refine ⟨List.nodup_cons.mpr ⟨hnew, hsound.nodup⟩, fun other hother => ?_⟩
    rcases List.mem_cons.mp hother with rfl | hother
    · rw [known_learn, if_pos rfl]
      exact Option.some_ne_none reply
    · exact known_learn_ne_none (hsound.known other hother)

namespace Learns

theorem grows (h : Learns ledger lookup reply after) : ledger.Grows after := by
  cases h with
  | recalled _ => exact .refl ledger
  | missed _ _ => exact .refl ledger
  | copied hnew _ => exact grows_learn hnew
  | fetched hnew _ => exact grows_fetch_learn hnew

/-- A reply with a record is known from then on. -/
theorem known (h : Learns ledger lookup reply after) (hrecord : reply.isRecord) :
    after.known lookup = some reply := by
  cases h with
  | recalled hknown => exact hknown
  | missed _ hnone =>
    rw [hnone] at hrecord
    cases hrecord
  | copied _ _ => rw [known_learn, if_pos rfl]
  | fetched _ _ => rw [known_learn, if_pos rfl]

/-- What is known is the reply. -/
theorem eq_of_known (h : Learns ledger lookup reply after) {known : Reply}
    (hknown : ledger.known lookup = some known) : reply = known := by
  cases h with
  | recalled hreply => exact Option.some.inj (hreply.symm.trans hknown)
  -- in all other cases the look-up was not known
  | missed hnew _ | copied hnew _ | fetched hnew _ =>
    rw [hnew] at hknown
    cases hknown

end Learns

end Ledger

/-! ### Requests for records of one kind -/

/-- The process has the ledger. -/
def Sees (ledger : Ledger) (process : Process ω) : Prop := process.ledger = ledger

open Process

/-- What happens outside the memory is not seen. -/
theorem keeps_onRest {effect : StateM ω α} {ledger : Ledger} {post : α → Prop}
    (h : ∀ world, post (effect world).1) : Keeps (Sees ledger) (onRest effect) post :=
  fun process hp => ⟨h process.rest, hp⟩

/-- A write beside whole records is not seen. -/
theorem keeps_writing {ledger : Ledger} {write : MemoryStore → MemoryStore}
    (h : ∀ store : MemoryStore, (write store).known? = store.known?) :
    Keeps (Sees ledger : Process ω → Prop) (onMemory (MemoryStore.writing write))
      fun _ => True := by
  rintro process rfl
  exact ⟨trivial, congrArg (Ledger.mk · process.fetched) (h process.memory)⟩

/-- A whole record that is written is learnt. -/
theorem leads_writing {ledger : Ledger} {write : MemoryStore → MemoryStore} {lookup : Lookup}
    {reply : Reply} (h : ∀ store : MemoryStore,
      (write store).known? = Function.update store.known? lookup (some reply)) :
    Leads (Sees ledger : Process ω → Prop) (onMemory (MemoryStore.writing write))
      fun _ => Sees (ledger.learn lookup reply) := by
  rintro process rfl
  exact congrArg (Ledger.mk · process.fetched) (h process.memory)

/-- A call of a source is seen if it gives a record. -/
theorem leads_noting {lookup : Lookup} {call : StateM ω (Except SourceError (Option α))}
    {ledger : Ledger} {right : α → Prop}
    (h : ∀ world value, (call world).1 = .ok (some value) → right value) :
    Leads (Sees ledger) (noting lookup call) fun answer process =>
      match answer with
      | .ok (some value) => right value ∧ Sees (ledger.fetch lookup) process
      | _ => Sees ledger process := by
  rintro process rfl
  have hright := h process.rest
  -- what is noted depends on the answer, so the call is made first
  unfold noting
  generalize call process.rest = result at hright ⊢
  obtain ⟨answer, rest⟩ := result
  match answer with
  | .ok (some value) => exact ⟨hright value rfl, rfl⟩
  | .ok none => rfl
  | .error _ => rfl

/-- How records of one kind are read, written and asked for by a resolver of a process: the memory
gives what is known, and learns what is written; the rest of the world gives nothing but what is
right for the look-up. -/
structure Whole (later : List (Tier (StateM ω))) (sources : List (Source (StateM ω)))
    (lookup : Lookup) (sourceId : String) (reply : Except SourceError (Option α) → Reply)
    (right : α → Prop)
    (read : Tier (StateM (Process ω)) → StateM (Process ω) (Except StoreError (Option α)))
    (fetch : Source (StateM (Process ω)) → StateM (Process ω) (Except SourceError (Option α)))
    (write : Tier (StateM (Process ω)) → α → StateM (Process ω) (Except StoreError Unit)) :
    Prop where
  isRecord_some : ∀ value, (reply (.ok (some value))).isRecord
  isRecord_none : (reply (.ok none)).isRecord = false
  isRecord_error : ∀ e, (reply (.error e)).isRecord = false
  readMemory : ∀ ledger, Keeps (Sees ledger) (read memoryTier) fun answer => ∃ found,
    answer = .ok found ∧ ledger.known lookup = found.map fun value => reply (.ok (some value))
  learn : ∀ value, right value → ∀ ledger, Leads (Sees ledger) (write memoryTier value)
    fun _ => Sees (ledger.learn lookup (reply (.ok (some value))))
  read : ∀ tier ∈ others later, ∀ ledger, Keeps (Sees ledger) (read tier)
    fun answer => ∀ value, answer = .ok (some value) → right value
  write : ∀ tier ∈ others later, ∀ value ledger,
    Keeps (Sees ledger) (write tier value) fun _ => True
  fetch : ∀ source ∈ sources.map Process.source, source.sourceId = sourceId → ∀ ledger,
    Leads (Sees ledger) (fetch source) fun answer process =>
      match answer with
      | .ok (some value) => right value ∧ Sees (ledger.fetch lookup) process
      | _ => Sees ledger process

namespace Whole

variable {later : List (Tier (StateM ω))} {sources : List (Source (StateM ω))} {lookup : Lookup}
  {sourceId : String} {reply : Except SourceError (Option α) → Reply} {right : α → Prop}
  {read : Tier (StateM (Process ω)) → StateM (Process ω) (Except StoreError (Option α))}
  {fetch : Source (StateM (Process ω)) → StateM (Process ω) (Except SourceError (Option α))}
  {write : Tier (StateM (Process ω)) → α → StateM (Process ω) (Except StoreError Unit)}
  {ledger : Ledger}

/-- A record that is written into the memory and other stores is learnt. -/
theorem leads_populate (h : Whole later sources lookup sourceId reply right read fetch write)
    {tiers : List (Tier (StateM (Process ω)))} (htiers : tiers ⊆ others later)
    {value : α} (hvalue : right value) :
    Leads (Sees ledger) (populate write value (memoryTier :: tiers))
      fun _ => Sees (ledger.learn lookup (reply (.ok (some value)))) := by
  refine (h.learn value hvalue ledger).bind fun _ => ?_
  exact (Keeps.populate fun tier htier => h.write tier (htiers htier) value _).leads
    fun _ _ _ hp => hp

/-- Once the memory has no record, another store may have one, which is learnt then. -/
theorem leads_readTiersFrom (h : Whole later sources lookup sourceId reply right read fetch write)
    {asked : List (Tier (StateM (Process ω)))} (hasked : asked ⊆ others later) :
    Leads (Sees ledger) (readTiersFrom read write [memoryTier] asked)
      fun found => found.elim (Sees ledger)
        fun value => Sees (ledger.learn lookup (reply (.ok (some value)))) := by
  have hread : ∀ tier ∈ asked, Leads (Sees ledger) (read tier)
      (AfterRead (fun value process => right value ∧ Sees ledger process) (Sees ledger)) := by
    intro tier htier
    refine (h.read tier (hasked htier) ledger).leads fun answer process hanswer hp => ?_
    match answer, hanswer with
    | .error _, _ => exact hp
    | .ok none, _ => exact hp
    | .ok (some value), hanswer => exact ⟨hanswer value rfl, hp⟩
  refine .readStores (fun _ => hread) fun before tier hbefore value => .of_and fun hvalue => ?_
  have hpassed : before ⊆ others later := fun other hother =>
    hasked (hbefore.subset (List.mem_append_left _ hother))
  exact h.leads_populate hpassed hvalue

/-- What the stores give is known, or it is learnt; if they give nothing, it is not known. -/
theorem leads_readTiers (h : Whole later sources lookup sourceId reply right read fetch write)
    (refresh : Bool) :
    Leads (Sees ledger) (readTiers read write ((resolver later sources).readable refresh))
      fun found process =>
        match found with
        | some value => ∃ after,
            ledger.Learns lookup (reply (.ok (some value))) after ∧ Sees after process
        | none => ledger.known lookup = none ∧ Sees ledger process := by
  -- the memory is read in any case, the others unless they are to be passed over
  obtain ⟨asked, hreadable, hasked⟩ : ∃ asked, (resolver later sources).readable refresh =
      memoryTier :: asked ∧ asked ⊆ others later := by
    cases refresh with
    | false => exact ⟨_, rfl, List.Subset.refl _⟩
    | true => exact ⟨[], rfl, List.nil_subset _⟩
  rw [hreadable]
  refine (h.readMemory ledger).leads_bind fun answer hanswer => ?_
  obtain ⟨found, rfl, hknown⟩ := hanswer
  cases found with
  | some value => exact .pure fun _ hp => ⟨ledger, .recalled hknown, hp⟩
  | none =>
    refine (h.leads_readTiersFrom hasked).mono fun found process hp => ?_
    cases found with
    | some value => exact ⟨_, .copied hknown (h.isRecord_some value), hp⟩
    | none => exact ⟨hknown, hp⟩

/-- A request for a record learns it. -/
theorem learns_resolve (h : Whole later sources lookup sourceId reply right read fetch write)
    (refresh : Bool) :
    Leads (Sees ledger) ((resolver later sources).resolve sourceId refresh read fetch write)
      fun answer process => ∃ after,
        ledger.Learns lookup (reply answer) after ∧ Sees after process := by
  refine (h.leads_readTiers refresh).bind fun found => ?_
  match found with
  | some value => exact .pure fun _ hp => hp
  | none =>
    -- only now sources come in, so what they give is new
    refine .of_and fun hnew => ?_
    dsimp only
    cases hsource : (resolver later sources).sources.find? (·.sourceId == sourceId) with
    | none => exact .pure fun _ hp => ⟨ledger, .missed hnew h.isRecord_none, hp⟩
    | some source =>
      have hid : source.sourceId = sourceId := by simpa using List.find?_some hsource
      refine (h.fetch source (List.mem_of_find?_eq_some hsource) hid ledger).bind fun answer => ?_
      match answer with
      | .error e => exact .pure fun _ hp => ⟨ledger, .missed hnew (h.isRecord_error e), hp⟩
      | .ok none => exact .pure fun _ hp => ⟨ledger, .missed hnew h.isRecord_none, hp⟩
      | .ok (some value) =>
        refine .of_and fun hvalue => ?_
        refine (h.leads_populate (List.Subset.refl _) hvalue).bind fun _ => .pure fun _ hp => ?_
        exact ⟨_, .fetched hnew (h.isRecord_some value), hp⟩

/-- So a reply with its answer lets the ledger grow. -/
theorem grows_reply (h : Whole later sources lookup sourceId reply right read fetch write)
    (refresh : Bool) :
    Leads (Sees ledger) (do
        return reply (← (resolver later sources).resolve sourceId refresh read fetch write))
      fun given process => ∃ after,
        (ledger.Grows after ∧ (lookup.isWhole → ledger.Learns lookup given after)) ∧
          Sees after process := by
  refine (h.learns_resolve refresh).bind fun answer => .pure fun process hlearnt => ?_
  obtain ⟨after, hlearns, hp⟩ := hlearnt
  exact ⟨after, ⟨hlearns.grows, fun _ => hlearns⟩, hp⟩

end Whole

/-! ### Shows, seasons and films -/

section Requests

variable {later : List (Tier (StateM ω))} {sources : List (Source (StateM ω))} {ledger : Ledger}
  {refresh : Bool}

section Keyed

variable (hlater : ∀ tier ∈ later, tier.Keyed) (hsources : ∀ source ∈ sources, source.Keyed)

include hlater hsources

theorem whole_show (key : CatalogKey) : Whole later sources (.show key) key.sourceId .show
    (fun record => record.key = key) (·.getShow key) (·.getShow key.id) (·.cacheShow ·) where
  isRecord_some _ := rfl
  isRecord_none := rfl
  isRecord_error _ := rfl
  readMemory ledger := by
    rintro process rfl
    exact ⟨⟨_, rfl, rfl⟩, rfl⟩
  learn record hrecord ledger := by
    subst hrecord
    exact leads_writing fun _ => MemoryStore.known?_putShow record
  read tier htier ledger := by
    obtain ⟨tier, hmem, rfl⟩ := List.mem_map.mp htier
    exact keeps_onRest fun world value => (hlater tier hmem).getShow
  write tier htier record ledger := by
    obtain ⟨tier, -, rfl⟩ := List.mem_map.mp htier
    exact keeps_onRest fun _ => trivial
  fetch source hsource hid ledger := by
    obtain ⟨source, hmem, rfl⟩ := List.mem_map.mp hsource
    obtain ⟨sourceId, id⟩ := key
    obtain rfl : source.sourceId = sourceId := hid
    exact leads_noting fun world record => (hsources source hmem).getShow

theorem whole_film (key : CatalogKey) : Whole later sources (.film key) key.sourceId .film
    (fun film => film.key = key) (·.getFilm key) (·.getFilm key.id) (·.cacheFilm ·) where
  isRecord_some _ := rfl
  isRecord_none := rfl
  isRecord_error _ := rfl
  readMemory ledger := by
    rintro process rfl
    exact ⟨⟨_, rfl, rfl⟩, rfl⟩
  learn film hfilm ledger := by
    subst hfilm
    exact leads_writing fun _ => MemoryStore.known?_putFilm film
  read tier htier ledger := by
    obtain ⟨tier, hmem, rfl⟩ := List.mem_map.mp htier
    exact keeps_onRest fun world value => (hlater tier hmem).getFilm
  write tier htier film ledger := by
    obtain ⟨tier, -, rfl⟩ := List.mem_map.mp htier
    exact keeps_onRest fun _ => trivial
  fetch source hsource hid ledger := by
    obtain ⟨source, hmem, rfl⟩ := List.mem_map.mp hsource
    obtain ⟨sourceId, id⟩ := key
    obtain rfl : source.sourceId = sourceId := hid
    exact leads_noting fun world film => (hsources source hmem).getFilm

/-- Episodes that are written behind their season are kept beside it. -/
theorem whole_season (key : SeasonKey) : Whole later sources (.season key) key.sourceId .season
    (fun season => season.key = key) (·.getSeason key) (·.getSeason key.showId key.season)
    writeSeason where
  isRecord_some _ := rfl
  isRecord_none := rfl
  isRecord_error _ := rfl
  readMemory ledger := by
    rintro process rfl
    exact ⟨⟨_, rfl, rfl⟩, rfl⟩
  learn season hseason ledger := by
    subst hseason
    refine (leads_writing fun _ => MemoryStore.known?_putSeason season).bind fun answer => ?_
    match answer with
    | .error _ => exact .pure fun _ hp => hp
    | .ok () =>
      refine (Keeps.writeEpisodes fun episode _ => ?_).leads fun _ _ _ hp => hp
      exact keeps_writing fun _ => MemoryStore.known?_putEpisode episode
  read tier htier ledger := by
    obtain ⟨tier, hmem, rfl⟩ := List.mem_map.mp htier
    exact keeps_onRest fun world value => (hlater tier hmem).getSeason
  write tier htier season ledger := by
    obtain ⟨tier, -, rfl⟩ := List.mem_map.mp htier
    exact Keeps.writeSeason (keeps_onRest fun _ => trivial) fun _ _ => keeps_onRest fun _ => trivial
  fetch source hsource hid ledger := by
    obtain ⟨source, hmem, rfl⟩ := List.mem_map.mp hsource
    obtain ⟨sourceId, showId, number⟩ := key
    obtain rfl : source.sourceId = sourceId := hid
    exact leads_noting fun world season => (hsources source hmem).getSeason

/-! ### All requests -/

omit hlater hsources in
/-- What holds of the memory and of all stores in the rest of the world holds of the stores of the
resolver. -/
theorem forall_tiers {motive : Tier (StateM (Process ω)) → Prop} (hmemory : motive memoryTier)
    (hrest : ∀ tier : Tier (StateM ω), motive (tier.lift onRest)) :
    ∀ tier ∈ (resolver later sources).tiers, motive tier := by
  intro tier htier
  rcases List.mem_cons.mp htier with rfl | htier
  · exact hmemory
  · obtain ⟨tier, -, rfl⟩ := List.mem_map.mp htier
    exact hrest tier

/-- A look-up of an episode does to the ledger what its season would, or nothing. -/
theorem grows_getEpisode (key : EpisodeKey) :
    Leads (Sees ledger) ((resolver later sources).getEpisode key refresh)
      fun _ process => ∃ after, ledger.Grows after ∧ Sees after process := by
  have hget : ∀ tier ∈ (resolver later sources).tiers, Keeps (Sees ledger) (tier.getEpisode key)
      fun answer => ∀ episode, answer = .ok (some episode) → True :=
    forall_tiers (fun _ hp => ⟨fun _ _ => trivial, hp⟩) fun _ => keeps_onRest fun _ _ _ => trivial
  have hcache : ∀ tier ∈ (resolver later sources).tiers, ∀ episode,
      Keeps (Sees ledger) (tier.cacheEpisode episode) fun _ => True :=
    forall_tiers (fun episode => keeps_writing fun _ => MemoryStore.known?_putEpisode episode)
      fun _ _ => keeps_onRest fun _ => trivial
  refine (Keeps.readTiers (fun tier htier => hget tier (Keeps.mem_tiers htier))
    fun tier htier episode _ => hcache tier (Keeps.mem_tiers htier) episode).leads_bind ?_
  intro found _
  cases found with
  | some episode => exact .pure fun _ hp => ⟨ledger, .refl ledger, hp⟩
  | none =>
    -- no store has it by itself, so its season is looked up
    refine ((whole_season hlater hsources key.season).learns_resolve refresh).bind fun season => ?_
    exact .pure fun _ ⟨after, hlearns, hp⟩ => ⟨after, hlearns.grows, hp⟩

/-- Every look-up lets the ledger grow, and one of a whole record learns it. -/
theorem grows_reply (lookup : Lookup) :
    Leads (Sees ledger) ((resolver later sources).reply lookup refresh) fun reply process =>
      ∃ after, (ledger.Grows after ∧ (lookup.isWhole → ledger.Learns lookup reply after)) ∧
        Sees after process := by
  cases lookup with
  | «show» key => exact (whole_show hlater hsources key).grows_reply refresh
  | season key => exact (whole_season hlater hsources key).grows_reply refresh
  | film key => exact (whole_film hlater hsources key).grows_reply refresh
  | episode key =>
    refine (grows_getEpisode hlater hsources key).bind fun answer => ?_
    exact .pure fun _ ⟨after, hgrows, hp⟩ => ⟨after, ⟨hgrows, fun h => nomatch h⟩, hp⟩

end Keyed

/-- Searches in sources are not seen. -/
theorem keeps_searchSources (query : Query) {asked : List (Source (StateM (Process ω)))}
    (hasked : asked ⊆ sources.map Process.source) :
    Keeps (Sees ledger) (Resolver.searchSources query asked) fun _ => True := by
  induction asked with
  | nil => exact .pure trivial
  | cons source asked ih =>
    obtain ⟨hsource, hrest⟩ := List.cons_subset.mp hasked
    obtain ⟨source, -, rfl⟩ := List.mem_map.mp hsource
    have hsearch : Keeps (Sees ledger) ((Process.source source).searchMedia query) fun _ => True :=
      keeps_onRest fun _ => trivial
    refine hsearch.bind fun answer _ => ?_
    match answer with
    | .ok none => exact ih hrest
    | .ok (some _) => exact .pure trivial
    | .error _ => exact .pure trivial

/-- Searches are not seen. -/
theorem keeps_searchMedia (query : Query) (allowed : List String) :
    Keeps (Sees ledger) ((resolver later sources).searchMedia query allowed refresh)
      fun _ => True := by
  have hsearch : ∀ tier ∈ (resolver later sources).tiers,
      Keeps (Sees ledger) (tier.searchMedia query) fun _ => True :=
    forall_tiers (fun _ hp => ⟨trivial, hp⟩) fun _ => keeps_onRest fun _ => trivial
  have hcache : ∀ tier ∈ (resolver later sources).tiers, ∀ result,
      Keeps (Sees ledger) (tier.cacheSearch query result) fun _ => True :=
    forall_tiers (fun result => keeps_writing fun _ => MemoryStore.known?_putSearch query result)
      fun _ _ => keeps_onRest fun _ => trivial
  have hread : Keeps (Sees ledger) (readTiers (Resolver.searchTier allowed query)
      (fun tier result => tier.cacheSearch query result)
      ((resolver later sources).readable refresh))
      fun found => ∀ result, found = some result → True := by
    refine Keeps.readTiers (fun tier htier => ?_) fun tier htier result _ =>
      hcache tier (Keeps.mem_tiers htier) result
    exact (hsearch tier (Keeps.mem_tiers htier)).bind fun _ _ => .pure fun _ _ => trivial
  refine hread.bind fun found _ => ?_
  match found with
  | some result => exact .pure trivial
  | none =>
    refine (keeps_searchSources query List.filter_sublist.subset).bind fun answer _ => ?_
    match answer with
    | .ok none => exact .pure trivial
    | .error _ => exact .pure trivial
    | .ok (some result) =>
      refine (Keeps.populate fun tier htier => ?_).bind fun _ _ => .pure trivial
      exact hcache tier htier result

end Requests

/-! ### Runs -/

section Runs

variable {later : List (Tier (StateM ω))} {sources : List (Source (StateM ω))} {ledger : Ledger}

/-- A later reply to the same look-up of a whole record is the earlier one, if that holds a
record. -/
def Repeats (earlier now : Lookup × Reply) : Prop :=
  now.1 = earlier.1 → earlier.1.isWhole → earlier.2.isRecord → now.2 = earlier.2

/-- In a run the ledger grows, what is known is the reply, and replies with records are final. -/
theorem leads_transcript (hlater : ∀ tier ∈ later, tier.Keyed)
    (hsources : ∀ source ∈ sources, source.Keyed) (requests : List Request) :
    Leads (Sees ledger) ((resolver later sources).transcript requests) fun replies process =>
      ∃ after, (ledger.Grows after ∧ replies.Pairwise Repeats ∧
        ∀ entry ∈ replies, entry.1.isWhole → ∀ known, ledger.known entry.1 = some known →
          entry.2 = known) ∧ Sees after process := by
  -- each request starts with what the ones before have made known
  induction requests generalizing ledger with
  | nil => exact .pure fun _ hp => ⟨ledger, ⟨.refl ledger, .nil, by simp⟩, hp⟩
  | cons request requests ih =>
    cases request with
    | search query allowed refresh =>
      exact (keeps_searchMedia query allowed).leads_bind fun _ _ => ih
    | lookup lookup refresh =>
      refine (grows_reply hlater hsources lookup).bind fun reply => ?_
      refine .of_exists fun next ⟨hgrows, hlearns⟩ => ih.bind fun replies => ?_
      refine .of_exists fun after ⟨hrest, hpairs, hknown⟩ => .pure fun process hp => ?_
      refine ⟨after, ⟨hgrows.trans hrest, List.pairwise_cons.mpr ⟨?_, hpairs⟩, ?_⟩, hp⟩
      · intro entry hentry hsame hwhole hrecord
        have hnext := (hlearns hwhole).known hrecord
        exact hknown entry hentry (hsame ▸ hwhole) reply (hsame ▸ hnext)
      · intro entry hentry hwhole known hledger
        rcases List.mem_cons.mp hentry with rfl | hentry
        · exact (hlearns hwhole).eq_of_known hledger
        · exact hknown entry hentry hwhole known (hgrows.known _ _ hledger)

/-- However the stores behind the memory and the sources behave, as long as their records carry the
keys they were asked for: in a run with an empty memory at first, once a show, a season or a film
has been given, every later look-up of it gives the same, and no source gives it twice. -/
theorem transcript_stable (hlater : ∀ tier ∈ later, tier.Keyed)
    (hsources : ∀ source ∈ sources, source.Keyed) (rest : ω) (requests : List Request) :
    ((resolver later sources).transcript requests { rest }).1.Pairwise Repeats ∧
      ((resolver later sources).transcript requests { rest }).2.fetched.Nodup := by
  obtain ⟨after, ⟨hgrows, hpairs, -⟩, hafter⟩ :=
    leads_transcript hlater hsources requests { rest } rfl
  -- nothing has been fetched yet
  have hsound : Ledger.Sound (Process.ledger { rest }) := ⟨List.nodup_nil, by simp [Process.ledger]⟩
  have hnodup := (hgrows.sound hsound).nodup
  rw [← hafter] at hnodup
  exact ⟨hpairs, hnodup⟩

end Runs

/-- A catalog whose shows and seasons have another name at every look. -/
def fickle : Source (StateM Nat) where
  sourceId := "tvmaze"
  getShow id := fun now =>
    (.ok (some { sourceId := "tvmaze", showId := id, name := String.ofList (Text.decimal now) }),
      now + 1)
  getSeason id number := fun now =>
    (.ok (some { sourceId := "tvmaze", showId := id, seasonNumber := number
                 url := some (String.ofList (Text.decimal now)), episodes := [], specials := [] }),
      now + 1)
  getFilm _ := fun now => (.ok none, now + 1)
  searchMedia _ := fun now => (.error (.request "no route"), now + 1)

/-- A store that fails every other time, and else has a show of another name. -/
def faltering : Tier (StateM Nat) where
  name := "faltering"
  getShow key := fun now =>
    (if now % 2 = 0 then .error (.unavailable "away")
      else .ok (some { sourceId := key.sourceId, showId := key.id, name := "kept" }), now + 1)
  getSeason _ := fun now => (.ok none, now + 1)
  getEpisode _ := fun now => (.ok none, now + 1)
  getFilm _ := fun now => (.error (.unavailable "away"), now + 1)
  searchMedia _ := fun now => (.ok none, now + 1)
  cacheShow _ := fun now => (.error (.unavailable "full"), now + 1)
  cacheSeason _ := fun now => (.ok (), now + 1)
  cacheEpisode _ := fun now => (.ok (), now + 1)
  cacheFilm _ := fun now => (.ok (), now + 1)
  cacheSearch _ _ := fun now => (.ok (), now + 1)

theorem fickle_keyed : fickle.Keyed where
  getShow h := by
    obtain rfl := Option.some.inj (Except.ok.inj h)
    rfl
  getSeason h := by
    obtain rfl := Option.some.inj (Except.ok.inj h)
    rfl
  getFilm h := nomatch h

theorem faltering_keyed : faltering.Keyed where
  getShow {key now record} h := by
    simp only [faltering] at h
    split at h
    · cases h
    · obtain rfl := Option.some.inj (Except.ok.inj h)
      rfl
  getSeason h := nomatch h
  getFilm h := nomatch h

/-- Requests of all kinds, some of them repeated with another refresh flag, to stores and sources
that never say the same twice. -/
theorem transcript_stable_fickle :
    let season : SeasonKey := ⟨"tvmaze", "7", 1⟩
    let requests : List Request :=
      [.lookup (.show ⟨"tvmaze", "7"⟩) false, .search { term := "lost", mode := .tvShow } [] false,
        .lookup (.episode ⟨season, false, 1⟩) true, .lookup (.season season) true,
        .lookup (.show ⟨"tvmaze", "7"⟩) true, .lookup (.show ⟨"tvmaze", "8"⟩) true,
        .lookup (.season season) false, .lookup (.film ⟨"tvmaze", "7"⟩) false]
    let run := (resolver [faltering] [fickle]).transcript requests { rest := 0 }
    (∀ tier ∈ [faltering], tier.Keyed) ∧ (∀ source ∈ [fickle], source.Keyed) ∧
      run.1.Pairwise Repeats ∧ run.2.fetched.Nodup ∧ run.2.fetched.length = 3 := by
  have hlater : ∀ tier ∈ [faltering], tier.Keyed := by simpa using faltering_keyed
  have hsources : ∀ source ∈ [fickle], source.Keyed := by simpa using fickle_keyed
  obtain ⟨hpairs, hnodup⟩ := transcript_stable hlater hsources 0 _
  exact ⟨hlater, hsources, hpairs, hnodup, by decide +kernel⟩

end MediaShelf
