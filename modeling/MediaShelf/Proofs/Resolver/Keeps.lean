import MediaShelf.Resolver

/-!
# Invariants of resolvers

A resolver is a program over any stores and sources. What it does to the state of the world is
reduced here to what single stores and sources do to it: an invariant that every look-up and every
write keeps is kept by a whole request, and if look-ups give nothing but the truth, so does the
request.

## Main definitions

* `Keeps` — an effect keeps an invariant and gives results of a certain kind
* `Leads` — an effect leads from states of one kind to results and states of another
* `AfterRead`, `AfterFetch` — what holds after a store was read, or a source was asked

## Main results

* `Keeps.bind`, `Leads.bind` — effects in a row
* `Keeps.readTiers` — the stores in order, with the copies into earlier ones
* `Keeps.resolve` — stores first, then the source
* `Leads.readStores`, `Leads.readTop`, `Leads.resolve` — the same with what holds in between
-/

namespace MediaShelf

variable {σ α β : Type}

/-- From every state with the invariant, the effect gives a result as in `post` and a state with
the invariant. -/
def Keeps (inv : σ → Prop) (effect : StateM σ α) (post : α → Prop) : Prop :=
  ∀ s, inv s → post (effect s).1 ∧ inv (effect s).2

/-- From every state as in `pre`, the effect gives a result and a state as in `post`. -/
def Leads (pre : σ → Prop) (effect : StateM σ α) (post : α → σ → Prop) : Prop :=
  ∀ s, pre s → post (effect s).1 (effect s).2

namespace Leads

variable {pre : σ → Prop} {post : α → σ → Prop}

theorem pure {a : α} (h : ∀ s, pre s → post a s) : Leads pre (Pure.pure a) post := h

theorem bind {first : StateM σ β} {mid : β → σ → Prop} {next : β → StateM σ α}
    (hfirst : Leads pre first mid) (hnext : ∀ b, Leads (mid b) (next b) post) :
    Leads pre (first >>= next) post :=
  fun s hs => hnext _ _ (hfirst s hs)

theorem mono {effect : StateM σ α} {weaker : α → σ → Prop} (h : Leads pre effect post)
    (hpost : ∀ a s, post a s → weaker a s) : Leads pre effect weaker :=
  fun s hs => hpost _ _ (h s hs)

theorem mono_left {effect : StateM σ α} {stronger : σ → Prop} (h : Leads pre effect post)
    (hpre : ∀ s, stronger s → pre s) : Leads stronger effect post :=
  fun s hs => h s (hpre s hs)

/-- To lead back to where one started is to keep it. -/
theorem keeps {inv : σ → Prop} {effect : StateM σ α} (h : Leads inv effect fun _ => inv) :
    Keeps inv effect fun _ => True :=
  fun s hs => ⟨trivial, h s hs⟩

/-- What does not depend on the state can be had beforehand. -/
theorem of_and {fact : Prop} {effect : StateM σ α} (h : fact → Leads pre effect post) :
    Leads (fun s => fact ∧ pre s) effect post :=
  fun s hs => h hs.1 s hs.2

/-- Nor does what is only known to exist. -/
theorem of_exists {ι : Type} {fact : ι → Prop} {pre : ι → σ → Prop} {effect : StateM σ α}
    (h : ∀ i, fact i → Leads (pre i) effect post) :
    Leads (fun s => ∃ i, fact i ∧ pre i s) effect post := by
  rintro s ⟨i, hi, hs⟩
  exact h i hi s hs

end Leads

namespace Keeps

variable {inv : σ → Prop} {post : α → Prop}

theorem pure {a : α} (h : post a) : Keeps inv (Pure.pure a) post := fun _ hs => ⟨h, hs⟩

theorem leads {effect : StateM σ α} {goal : α → σ → Prop} (h : Keeps inv effect post)
    (hgoal : ∀ a s, post a → inv s → goal a s) : Leads inv effect goal :=
  fun s hs => hgoal _ _ (h s hs).1 (h s hs).2

/-- Behind an effect that keeps the invariant, another may lead elsewhere. -/
theorem leads_bind {first : StateM σ β} {mid : β → Prop} {next : β → StateM σ α}
    {goal : α → σ → Prop} (hfirst : Keeps inv first mid)
    (hnext : ∀ b, mid b → Leads inv (next b) goal) : Leads inv (first >>= next) goal :=
  fun s hs => hnext _ (hfirst s hs).1 _ (hfirst s hs).2

theorem bind {first : StateM σ β} {mid : β → Prop} {next : β → StateM σ α}
    (hfirst : Keeps inv first mid) (hnext : ∀ b, mid b → Keeps inv (next b) post) :
    Keeps inv (first >>= next) post := by
  intro s hs
  obtain ⟨hmid, hs'⟩ := hfirst s hs
  exact hnext _ hmid _ hs'

end Keeps

/-! ### Stores in order -/

/-- What holds after a store was read: one thing of a record that it gave, another if it gave
none. -/
def AfterRead (hit : α → σ → Prop) (miss : σ → Prop) :
    Except StoreError (Option α) → σ → Prop
  | .ok (some value) => hit value
  | _ => miss

/-- What holds after a source was asked: one thing of a record that it gave, another of any other
answer. -/
def AfterFetch (given : α → σ → Prop) (goal : Except SourceError (Option α) → σ → Prop) :
    Except SourceError (Option α) → σ → Prop
  | .ok (some value) => given value
  | answer => goal answer

section Tiers

variable {inv : σ → Prop} {told : α → σ → Prop} {right : α → Prop}
  {read : Tier (StateM σ) → StateM σ (Except StoreError (Option α))}
  {write : Tier (StateM σ) → α → StateM σ (Except StoreError Unit)}
  {tiers : List (Tier (StateM σ))}

theorem Keeps.populate {value : α}
    (hwrite : ∀ tier ∈ tiers, Keeps inv (write tier value) fun _ => True) :
    Keeps inv (MediaShelf.populate write value tiers) fun _ => True := by
  induction tiers with
  | nil => exact .pure trivial
  | cons tier tiers ih =>
    refine .bind (hwrite tier (by simp)) fun _ _ => ih fun t ht => ?_
    exact hwrite t (List.mem_cons_of_mem _ ht)

/-- The first record that a store gives is copied into the stores of `front` and into those that
were read before it, where `seen` were read already. Here `miss` holds once the stores it is about
have given nothing. -/
theorem Leads.readStoresFrom {front seen : List (Tier (StateM σ))} {given : α → σ → Prop}
    {miss : List (Tier (StateM σ)) → σ → Prop}
    (hread : ∀ before, ∀ tier ∈ tiers,
      Leads (miss before) (read tier) (AfterRead given (miss (before ++ [tier]))))
    (hcopy : ∀ before tier, before ++ [tier] <+: seen ++ tiers → ∀ value,
      Leads (given value) (MediaShelf.populate write value (front ++ before)) fun _ => told value) :
    Leads (miss seen) (MediaShelf.readTiersFrom read write (front ++ seen) tiers)
      fun found => found.elim (miss (seen ++ tiers)) told := by
  -- a store that gave nothing joins those to be filled, so these vary
  induction tiers generalizing seen with
  | nil =>
    rw [List.append_nil]
    exact .pure fun _ h => h
  | cons tier tiers ih =>
    have hsplit : seen ++ tier :: tiers = seen ++ [tier] ++ tiers := by simp
    rw [hsplit] at hcopy ⊢
    refine (hread seen tier List.mem_cons_self).bind fun answer => ?_
    have hmiss : Leads (miss (seen ++ [tier]))
        (MediaShelf.readTiersFrom read write (front ++ (seen ++ [tier])) tiers)
        fun found => found.elim (miss (seen ++ [tier] ++ tiers)) told :=
      ih (fun before other hother => hread before other (List.mem_cons_of_mem _ hother)) hcopy
    rw [← List.append_assoc] at hmiss
    -- only a hit ends the search
    match answer with
    | .error _ => exact hmiss
    | .ok none => exact hmiss
    | .ok (some value) =>
      exact (hcopy seen tier (List.prefix_append _ _) value).bind fun _ => .pure fun _ h => h

theorem Leads.readStores {front : List (Tier (StateM σ))} {given : α → σ → Prop}
    {miss : List (Tier (StateM σ)) → σ → Prop}
    (hread : ∀ before, ∀ tier ∈ tiers,
      Leads (miss before) (read tier) (AfterRead given (miss (before ++ [tier]))))
    (hcopy : ∀ before tier, before ++ [tier] <+: tiers → ∀ value,
      Leads (given value) (MediaShelf.populate write value (front ++ before)) fun _ => told value) :
    Leads (miss []) (MediaShelf.readTiersFrom read write front tiers)
      fun found => found.elim (miss tiers) told := by
  have hstores : Leads (miss []) (MediaShelf.readTiersFrom read write (front ++ []) tiers)
      fun found => found.elim (miss tiers) told := .readStoresFrom hread hcopy
  rwa [List.append_nil] at hstores

/-- What is told of the first record that a store gives is still told once it has been copied into
the stores before. -/
theorem Leads.readTiers (hread : ∀ tier ∈ tiers, Leads inv (read tier) (AfterRead told inv))
    (hwrite : ∀ tier ∈ tiers, ∀ value, Keeps (told value) (write tier value) fun _ => True) :
    Leads inv (MediaShelf.readTiers read write tiers) fun found => found.elim inv told := by
  refine .readStores (fun _ => hread) fun before tier hbefore value => ?_
  refine (Keeps.populate fun other hother => ?_).leads fun _ _ _ h => h
  exact hwrite other (hbefore.subset (List.mem_append_left _ hother)) value

/-- What the stores give is right if each of them gives what is right alone, and writing what is
right keeps the invariant. -/
theorem Keeps.readTiers
    (hread : ∀ tier ∈ tiers,
      Keeps inv (read tier) fun answer => ∀ value, answer = .ok (some value) → right value)
    (hwrite : ∀ tier ∈ tiers, ∀ value, right value → Keeps inv (write tier value) fun _ => True) :
    Keeps inv (MediaShelf.readTiers read write tiers) fun found =>
      ∀ value, found = some value → right value := by
  have hstores : Leads inv (MediaShelf.readTiers read write tiers)
      fun found => found.elim inv fun value s => right value ∧ inv s := by
    refine .readTiers (fun tier htier => (hread tier htier).leads fun answer s hright hs => ?_)
      fun tier htier value s hs => ⟨trivial, hs.1, (hwrite tier htier value hs.1 s hs.2).2⟩
    match answer, hright with
    | .error _, _ => exact hs
    | .ok none, _ => exact hs
    | .ok (some value), hright => exact ⟨hright value rfl, hs⟩
  intro s hs
  have hfound := hstores s hs
  cases hvalue : (MediaShelf.readTiers read write tiers s).1 with
  | none =>
    rw [hvalue] at hfound
    exact ⟨nofun, hfound⟩
  | some value =>
    rw [hvalue] at hfound
    refine ⟨?_, hfound.2⟩
    rintro _ ⟨⟩
    exact hfound.1

end Tiers

namespace Keeps

variable {inv : σ → Prop}
  {read : Tier (StateM σ) → StateM σ (Except StoreError (Option α))}
  {write : Tier (StateM σ) → α → StateM σ (Except StoreError Unit)}

theorem writeEpisodes {tier : Tier (StateM σ)} {episodes : List Episode}
    (hwrite : ∀ episode ∈ episodes, Keeps inv (tier.cacheEpisode episode) fun _ => True) :
    Keeps inv (MediaShelf.writeEpisodes tier episodes) fun _ => True := by
  induction episodes with
  | nil => exact pure trivial
  | cons episode episodes ih =>
    refine bind (hwrite episode (by simp)) fun answer _ => ?_
    -- the first refusal ends the writing
    match answer with
    | .error _ => exact pure trivial
    | .ok () => exact ih fun e he => hwrite e (List.mem_cons_of_mem _ he)

theorem writeSeason {tier : Tier (StateM σ)} {season : Season}
    (hseason : Keeps inv (tier.cacheSeason season) fun _ => True)
    (hepisode : ∀ episode ∈ season.episodes ++ season.specials,
      Keeps inv (tier.cacheEpisode episode) fun _ => True) :
    Keeps inv (MediaShelf.writeSeason tier season) fun _ => True := by
  refine bind hseason fun answer _ => ?_
  match answer with
  | .error _ => exact pure trivial
  | .ok () => exact writeEpisodes hepisode

theorem mem_tiers {resolver : Resolver (StateM σ)} {refresh : Bool} {tier : Tier (StateM σ)}
    (h : tier ∈ resolver.readable refresh) : tier ∈ resolver.tiers := by
  cases refresh with
  | false => exact h
  | true => exact List.mem_of_mem_take h

/-- A request gives `truth` if stores give nothing else and the source, or its absence, does. -/
theorem resolve {resolver : Resolver (StateM σ)} {sourceId : String} {refresh : Bool}
    {fetch : Source (StateM σ) → StateM σ (Except SourceError (Option α))}
    {truth : Except SourceError (Option α)}
    (hread : ∀ tier ∈ resolver.tiers,
      Keeps inv (read tier) fun answer => ∀ value, answer = .ok (some value) →
        truth = .ok (some value))
    (hwrite : ∀ tier ∈ resolver.tiers, ∀ value, truth = .ok (some value) →
      Keeps inv (write tier value) fun _ => True)
    (hfetch : ∀ source, resolver.sources.find? (·.sourceId == sourceId) = some source →
      Keeps inv (fetch source) (· = truth))
    (hnone : resolver.sources.find? (·.sourceId == sourceId) = none → truth = .ok none) :
    Keeps inv (resolver.resolve sourceId refresh read fetch write) (· = truth) := by
  have hread' : Keeps inv (MediaShelf.readTiers read write (resolver.readable refresh))
      fun found => ∀ value, found = some value → truth = .ok (some value) :=
    readTiers (fun t ht => hread t (mem_tiers ht)) fun t ht => hwrite t (mem_tiers ht)
  refine bind hread' fun found hfound => ?_
  match found with
  | some value => exact pure (hfound value rfl).symm
  | none =>
    dsimp only
    split
    · rename_i hsource
      exact pure (hnone hsource).symm
    · rename_i source hsource
      refine bind (hfetch source hsource) fun answer hanswer => ?_
      split
      · rename_i value
        refine bind (populate fun t ht => hwrite t ht value hanswer.symm) fun _ _ => ?_
        exact pure hanswer
      · exact pure hanswer

end Keeps

/-! ### A store above others -/

namespace Leads

variable {pre miss : σ → Prop} {told given : α → σ → Prop}
  {read : Tier (StateM σ) → StateM σ (Except StoreError (Option α))}
  {write : Tier (StateM σ) → α → StateM σ (Except StoreError Unit)}
  {resolver : Resolver (StateM σ)} {upper lower : Tier (StateM σ)} {refresh : Bool}

/-- A season that a store has taken is followed by its entries. -/
theorem writeSeason {tier : Tier (StateM σ)} {season : Season} {inv : σ → Prop}
    (hseason : Leads pre (tier.cacheSeason season) fun _ => inv)
    (hepisode : ∀ episode ∈ season.episodes ++ season.specials,
      Keeps inv (tier.cacheEpisode episode) fun _ => True) :
    Leads pre (MediaShelf.writeSeason tier season) fun _ => inv := by
  refine hseason.bind fun answer => ?_
  match answer with
  | .error _ => exact .pure fun _ h => h
  | .ok () => exact (Keeps.writeEpisodes hepisode).leads fun _ _ _ h => h

/-- A record is known to the top store, or one of those below gives it, and it is copied into the
top store then; `missed` holds once stores below have given nothing. -/
theorem readTop {top : Tier (StateM σ)} {below : List (Tier (StateM σ))} {goal : α → σ → Prop}
    (missed : List (Tier (StateM σ)) → σ → Prop)
    (hupper : Leads pre (read top) (AfterRead goal (missed [])))
    (hread : ∀ before, ∀ tier ∈ below,
      Leads (missed before) (read tier) (AfterRead given (missed (before ++ [tier]))))
    (hcopy : ∀ value, Leads (given value) (write top value) fun _ => told value)
    (hwrite : ∀ tier ∈ below.dropLast, ∀ value,
      Keeps (told value) (write tier value) fun _ => True)
    (hgoal : ∀ value s, told value s → goal value s) :
    Leads pre (MediaShelf.readTiers read write (top :: below))
      fun found => found.elim (missed below) goal := by
  have hbelow : Leads (missed []) (MediaShelf.readTiersFrom read write [top] below)
      fun found => found.elim (missed below) goal := by
    refine .readStores hread fun before tier ⟨behind, hbefore⟩ value => ?_
    -- the store that gave the record is not among those to be filled
    have hmem : ∀ other ∈ before, other ∈ below.dropLast := by
      intro other hother
      rw [← hbefore, List.append_assoc, List.dropLast_append_of_ne_nil (by simp)]
      exact List.mem_append_left _ hother
    refine (hcopy value).bind fun _ => (Keeps.populate fun other hother => ?_).leads
      fun _ s _ htold => hgoal value s htold
    exact hwrite other (hmem other hother) value
  refine hupper.bind fun answer => ?_
  match answer with
  | .error _ => exact hbelow
  | .ok none => exact hbelow
  | .ok (some value) => exact .pure fun _ h => h

/-- A record is told by the upper store, or by the lower one, which is read if it may be, and then
copied into the upper one. -/
theorem readTwo (htiers : resolver.tiers = [upper, lower])
    (hupper : Leads pre (read upper) (AfterRead told miss))
    (hlower : Leads miss (read lower) (AfterRead given miss))
    (hcopy : ∀ value, Leads (given value) (write upper value) fun _ => told value) :
    Leads pre (MediaShelf.readTiers read write (resolver.readable refresh))
      fun found => found.elim miss told := by
  have hreadable : resolver.readable refresh = upper :: if refresh then [] else [lower] := by
    cases refresh <;> simp [Resolver.readable, htiers]
  rw [hreadable]
  refine readTop (fun _ => miss) hupper (fun _ tier htier => ?_) hcopy ?_ fun _ _ h => h
  · obtain rfl : tier = lower := by
      cases refresh
      · exact List.mem_singleton.mp htier
      · cases htier
    exact hlower
  · -- nothing is written into the lower store
    cases refresh <;> exact List.forall_mem_nil _

/-- A request leads to what the stores tell, or else to what the source gives, which is written into
all stores. -/
theorem resolve {sourceId : String}
    {fetch : Source (StateM σ) → StateM σ (Except SourceError (Option α))}
    {goal : Except SourceError (Option α) → σ → Prop}
    (hread : Leads pre (MediaShelf.readTiers read write (resolver.readable refresh))
      fun found => found.elim miss fun value => goal (.ok (some value)))
    (hnone : ∀ s, miss s → goal (.ok none) s)
    (hfetch : ∀ source, resolver.sources.find? (·.sourceId == sourceId) = some source →
      Leads miss (fetch source) (AfterFetch given goal))
    (hwrite : ∀ value, Leads (given value) (MediaShelf.populate write value resolver.tiers)
      fun _ => goal (.ok (some value))) :
    Leads pre (resolver.resolve sourceId refresh read fetch write) goal := by
  refine hread.bind fun found => ?_
  match found with
  | some value => exact .pure fun _ h => h
  | none =>
    dsimp only
    split
    · exact .pure hnone
    · rename_i source hsource
      refine (hfetch source hsource).bind fun answer => ?_
      match answer with
      | .error _ => exact .pure fun _ h => h
      | .ok none => exact .pure fun _ h => h
      | .ok (some value) => exact (hwrite value).bind fun _ => .pure fun _ h => h

/-- What is told of a record that a store or the source gives is told of the answer, as long as
copies of the record do not change it. -/
theorem resolveTold {sourceId : String} {inv : σ → Prop}
    {fetch : Source (StateM σ) → StateM σ (Except SourceError (Option α))}
    (hread : ∀ tier ∈ resolver.readable refresh, Leads inv (read tier) (AfterRead told inv))
    (hfetch : ∀ source ∈ resolver.sources, Leads inv (fetch source) (AfterFetch told fun _ => inv))
    (hwrite : ∀ tier ∈ resolver.tiers, ∀ value,
      Keeps (told value) (write tier value) fun _ => True) :
    Leads inv (resolver.resolve sourceId refresh read fetch write)
      (AfterFetch told fun _ => inv) := by
  have hstores : Leads inv (MediaShelf.readTiers read write (resolver.readable refresh))
      fun found => found.elim inv told :=
    .readTiers hread fun tier htier => hwrite tier (Keeps.mem_tiers htier)
  have hsource : ∀ source, resolver.sources.find? (·.sourceId == sourceId) = some source →
      Leads inv (fetch source) (AfterFetch told (AfterFetch told fun _ => inv)) := by
    intro source hfind
    refine (hfetch source (List.mem_of_find?_eq_some hfind)).mono fun answer s h => ?_
    match answer with
    | .error _ => exact h
    | .ok none => exact h
    | .ok (some _) => exact h
  refine .resolve hstores (fun _ h => h) hsource fun value => ?_
  exact (Keeps.populate fun tier htier => hwrite tier htier value).leads fun _ _ _ h => h

end Leads

/-- Between two stores, only what the source gives is written into the lower one. -/
theorem Keeps.resolveTwo {inv : σ → Prop} {sourceId : String} (storable : α → Prop)
    {read : Tier (StateM σ) → StateM σ (Except StoreError (Option α))}
    {write : Tier (StateM σ) → α → StateM σ (Except StoreError Unit)}
    {fetch : Source (StateM σ) → StateM σ (Except SourceError (Option α))}
    {resolver : Resolver (StateM σ)} {upper lower : Tier (StateM σ)} {refresh : Bool}
    (htiers : resolver.tiers = [upper, lower])
    (hrecall : Keeps inv (read upper) fun _ => True) (hlook : Keeps inv (read lower) fun _ => True)
    (hupper : ∀ value, Keeps inv (write upper value) fun _ => True)
    (hlower : ∀ value, storable value → Keeps inv (write lower value) fun _ => True)
    (hfetch : ∀ source ∈ resolver.sources, Keeps inv (fetch source) fun answer =>
      ∀ value, answer = .ok (some value) → storable value) :
    Keeps inv (resolver.resolve sourceId refresh read fetch write) fun _ => True := by
  have hanswer : ∀ (answer : Except StoreError (Option α)) s, True → inv s →
      AfterRead (fun _ => inv) inv answer s := by
    intro answer s _ h
    match answer with
    | .ok (some _) => exact h
    | .ok none => exact h
    | .error _ => exact h
  have hstores : Leads inv (MediaShelf.readTiers read write (resolver.readable refresh))
      fun found => found.elim inv fun _ => inv :=
    .readTwo htiers (hrecall.leads hanswer) (hlook.leads hanswer)
      fun value => (hupper value).leads fun _ _ _ h => h
  have hsource : ∀ source, resolver.sources.find? (·.sourceId == sourceId) = some source →
      Leads inv (fetch source)
        (AfterFetch (fun value s => storable value ∧ inv s) fun _ => inv) := by
    intro source hfind
    refine (hfetch source (List.mem_of_find?_eq_some hfind)).leads fun answer s hright h => ?_
    match answer with
    | .ok (some value) => exact ⟨hright value rfl, h⟩
    | .ok none => exact h
    | .error _ => exact h
  refine Leads.keeps (.resolve hstores (fun _ h => h) hsource fun value => ?_)
  refine .of_and fun hvalue => ?_
  have hwrite : ∀ tier ∈ resolver.tiers, Keeps inv (write tier value) fun _ => True := by
    rw [htiers]
    simpa using ⟨hupper value, hlower value hvalue⟩
  exact (Keeps.populate hwrite).leads fun _ _ _ h => h

end MediaShelf
