import MediaShelf.Proofs.Record.Query
import MediaShelf.Proofs.Resolver.Truth
import MediaShelf.Proofs.Store.Memory

/-!
# Searches that are kept

A process keeps what a search led to under the name of its query, and a name says nothing about the
part that was asked for. So what comes back from a resolver with one memory store is what the
sources give, or what they gave for an earlier query that differs in its part alone.

The invariant is that whatever the store has for a query is what the sources give for one of the
queries made so far, with the same mode, term and year.

## Main definitions

* `Resolver.searches` — searches in order, all among the same sources
* `MemoryStore.Recalls` — the invariant

## Main results

* `Resolver.searchMedia_memory` — a search, as the store has it and as the sources give it
* `exists_searches_eq` — every search is answered as one of those up to it
* `searches_memory_eq_searches_nil` — the store does not show, unless parts differ
-/

namespace MediaShelf

/-! ### One search -/

namespace Resolver

variable {m : Type → Type} [Monad m]

/-- Searches in order, each with its refresh flag, all among the same allowed sources. -/
def searches (resolver : Resolver m) (allowed : List String) :
    List (Query × Bool) → m (List (Except SourceError (Option SearchResult)))
  | [] => return []
  | (query, refresh) :: rest => do
    let first ← resolver.searchMedia query allowed refresh
    return first :: (← searches resolver allowed rest)

variable {catalogs : List (String × Source.Answers)} {allowed : List String}

/-- Without stores a search gives what the allowed sources give. -/
theorem searchMedia_nil [LawfulMonad m] (query : Query) (refresh : Bool) :
    searchMedia (m := m) ⟨[], sourcesOf catalogs⟩ query allowed refresh =
      pure (trueSearch catalogs allowed query) := by
  have hread (read : Tier m → m (Except StoreError (Option SearchResult)))
      (write : Tier m → SearchResult → m (Except StoreError Unit)) :
      readTiers read write (readable ⟨[], sourcesOf catalogs⟩ refresh) = pure none := by
    cases refresh <;> rfl
  rw [searchMedia, hread, pure_bind]
  dsimp only
  rw [searchSources_sourcesOf, pure_bind]
  -- a result would be written into no store
  split
  · rename_i result hresult
    rw [hresult, populate, pure_bind]
  · rfl

/-- With a memory store a search gives what the store has from the allowed sources, or else what
these give now, which is kept if it is a result. A refresh makes no difference to the first
store. -/
theorem searchMedia_memory (query : Query) (refresh : Bool) (store : MemoryStore) :
    searchMedia ⟨[MemoryStore.tier], sourcesOf catalogs⟩ query allowed refresh store =
      match (store.searches.lookup query.key).filter (allowed.contains ·.sourceId) with
      | some result => (.ok (some result), store)
      | none =>
        match trueSearch catalogs allowed query with
        | .ok (some result) => (.ok (some result), store.putSearch query result)
        | answer => (answer, store) := by
  have hreadable : readable ⟨[MemoryStore.tier], sourcesOf catalogs⟩ refresh =
      [MemoryStore.tier] := by
    cases refresh <;> rfl
  have hsearch : searchTier allowed query MemoryStore.tier store =
      (.ok ((store.searches.lookup query.key).filter (allowed.contains ·.sourceId)), store) := rfl
  have hread : readTiers (searchTier allowed query)
      (fun tier result => tier.cacheSearch query result) [MemoryStore.tier] store =
      ((store.searches.lookup query.key).filter (allowed.contains ·.sourceId), store) := by
    rw [readTiers, readTiersFrom]
    simp only [bind, StateT.bind, hsearch]
    cases (store.searches.lookup query.key).filter (allowed.contains ·.sourceId) <;> rfl
  rw [searchMedia, hreadable]
  simp only [bind, StateT.bind, hread]
  cases (store.searches.lookup query.key).filter (allowed.contains ·.sourceId) with
  | some result => rfl
  | none =>
    dsimp only
    rw [searchSources_sourcesOf]
    cases trueSearch catalogs allowed query with
    | error e => rfl
    | ok found => cases found <;> rfl

end Resolver

/-! ### What the store recalls -/

section Recall

variable {catalogs : List (String × Source.Answers)} {allowed : List String}
  {asked : List Query} {store : MemoryStore}

/-- Whatever the store has for a normal query is what the sources give for one of the queries
`asked`, which differs in the part at most. -/
def MemoryStore.Recalls (catalogs : List (String × Source.Answers)) (allowed : List String)
    (asked : List Query) (store : MemoryStore) : Prop :=
  ∀ query result, query.IsNormal → store.searches.lookup query.key = some result →
    ∃ earlier ∈ asked, earlier.SameButPart query ∧
      trueSearch catalogs allowed earlier = .ok (some result)

namespace MemoryStore.Recalls

theorem empty : MemoryStore.Recalls catalogs allowed [] {} := by
  intro query result _ h
  simp at h

theorem mono (h : store.Recalls catalogs allowed asked) (more : List Query) :
    store.Recalls catalogs allowed (asked ++ more) := by
  intro query result hquery hfound
  obtain ⟨earlier, hmem, hsame, htrue⟩ := h query result hquery hfound
  exact ⟨earlier, List.mem_append_left _ hmem, hsame, htrue⟩

theorem putSearch (h : store.Recalls catalogs allowed asked) {query : Query}
    (hquery : query.IsNormal) {result : SearchResult}
    (hresult : trueSearch catalogs allowed query = .ok (some result)) :
    (store.putSearch query result).Recalls catalogs allowed (asked ++ [query]) := by
  intro other found hother hfound
  rw [lookup_putSearch] at hfound
  split at hfound
  · rename_i hkey
    cases hfound
    have hsame := (Query.key_eq_iff_sameButPart hquery hother).mp hkey.symm
    exact ⟨query, by simp, hsame, hresult⟩
  · exact h.mono [query] other found hother hfound

end MemoryStore.Recalls

/-- One search gives what the sources give for a query made up to now, and the store recalls no
other queries after it. -/
theorem searchMedia_recalls (h : store.Recalls catalogs allowed asked) {query : Query}
    (hquery : query.IsNormal) (refresh : Bool) :
    let outcome := Resolver.searchMedia ⟨[MemoryStore.tier], sourcesOf catalogs⟩ query allowed
      refresh store
    (∃ earlier ∈ asked ++ [query], earlier.SameButPart query ∧
      outcome.1 = trueSearch catalogs allowed earlier) ∧
    outcome.2.Recalls catalogs allowed (asked ++ [query]) := by
  dsimp only
  rw [Resolver.searchMedia_memory]
  split
  · rename_i result hfound
    have hkept := (Option.filter_eq_some_iff.mp hfound).1
    obtain ⟨earlier, hmem, hsame, htrue⟩ := h query result hquery hkept
    exact ⟨⟨earlier, List.mem_append_left _ hmem, hsame, htrue.symm⟩, h.mono _⟩
  · have hnow : query ∈ asked ++ [query] := by simp
    split
    · rename_i result hresult
      exact ⟨⟨query, hnow, .refl query, hresult.symm⟩, h.putSearch hquery hresult⟩
    · exact ⟨⟨query, hnow, .refl query, rfl⟩, h.mono _⟩

/-- Every search in a row is answered as the sources answer one of those up to it. -/
theorem exists_searches_eq (requests : List (Query × Bool))
    (hnormal : ∀ request ∈ requests, request.1.IsNormal)
    (h : store.Recalls catalogs allowed asked) {i : Nat} {request : Query × Bool}
    (hi : requests[i]? = some request) :
    ∃ earlier ∈ asked ++ (requests.take (i + 1)).map (·.1), earlier.SameButPart request.1 ∧
      (Resolver.searches ⟨[MemoryStore.tier], sourcesOf catalogs⟩ allowed requests store).1[i]? =
        some (trueSearch catalogs allowed earlier) := by
  induction requests generalizing store asked i with
  | nil => simp at hi
  | cons first rest ih =>
    obtain ⟨query, refresh⟩ := first
    obtain ⟨hanswer, hnext⟩ := searchMedia_recalls h (hnormal _ List.mem_cons_self) refresh
    cases i with
    | zero =>
      cases hi
      obtain ⟨earlier, hmem, hsame, htrue⟩ := hanswer
      refine ⟨earlier, by simpa using hmem, hsame, ?_⟩
      rw [← htrue]
      rfl
    | succ i =>
      have hrest : ∀ request ∈ rest, request.1.IsNormal :=
        fun request hmem => hnormal request (List.mem_cons_of_mem _ hmem)
      obtain ⟨earlier, hmem, hsame, htrue⟩ := ih hrest hnext hi
      exact ⟨earlier, by simpa using hmem, hsame, htrue⟩

/-- Without stores all searches give what the sources give. -/
theorem searches_nil {σ : Type} (requests : List (Query × Bool)) (world : σ) :
    (Resolver.searches (m := StateM σ) ⟨[], sourcesOf catalogs⟩ allowed requests world).1 =
      requests.map (trueSearch catalogs allowed ·.1) := by
  induction requests generalizing world with
  | nil => rfl
  | cons request requests ih =>
    rw [List.map_cons, ← ih world, Resolver.searches, Resolver.searchMedia_nil, pure_bind]
    rfl

end Recall

/-- With a memory store that is empty at first, a search among others is answered as it is without
stores, if no search before it asked for another part of the same. All searches are among the same
sources, and whether they refresh makes no difference. -/
theorem searches_memory_eq_searches_nil (catalogs : List (String × Source.Answers))
    (hcase : ∀ catalog ∈ catalogs, catalog.2.IgnoresCase) (allowed : List String)
    (before after : List (Query × Bool)) (query : Query) (refresh : Bool)
    (hnormal : ∀ request ∈ before ++ (query, refresh) :: after, request.1.IsNormal)
    (hpart : ∀ request ∈ before, request.1.SameButPart query → request.1.part = query.part) :
    (Resolver.searches ⟨[MemoryStore.tier], sourcesOf catalogs⟩ allowed
        (before ++ (query, refresh) :: after) {}).1[before.length]? =
      (Resolver.searches (m := StateM MemoryStore) ⟨[], sourcesOf catalogs⟩ allowed
        (before ++ (query, refresh) :: after) {}).1[before.length]? := by
  have hi : (before ++ (query, refresh) :: after)[before.length]? = some (query, refresh) := by
    simp
  obtain ⟨earlier, hmem, hsame, hanswer⟩ := exists_searches_eq _ hnormal .empty hi
  -- the search is answered as itself, or as one before it that has the same part
  have hparts : earlier.part = query.part := by
    rw [List.nil_append, List.take_add_one, hi, List.take_left', List.map_append,
      List.mem_append] at hmem
    · rcases hmem with hbefore | hnow
      · obtain ⟨other, hother, rfl⟩ := List.mem_map.mp hbefore
        exact hpart other hother hsame
      · rw [List.mem_singleton.mp hnow]
    · rfl
  rw [hanswer, searches_nil, List.getElem?_map, hi, Option.map_some,
    trueSearch_congr hcase hsame.term hsame.year hsame.mode hparts]

/-- A catalog that knows each part of one film. -/
def filmInParts : Source.Answers where
  getShow _ := .ok none
  getSeason _ _ := .ok none
  getFilm _ := .ok none
  searchMedia query :=
    if Text.lowercase query.term.toList = ['h', 'e', 'a', 't'] then
      .ok (some { id := "82", sourceId := "tmdb", part := query.part, mode := query.mode })
    else .ok none

theorem filmInParts_ignoresCase : filmInParts.IgnoresCase := by
  intro a b hterm _ hmode hpart
  simp only [filmInParts, hterm, hmode, hpart]

/-- A search for a film by its title, year and part. -/
def filmQuery (term : String) (year : Option String) (part : Option UInt32) : Query :=
  { term, year, mode := .film, part }

/-- A search that differs from an earlier one in letter case alone, after searches for another year
and for another film. -/
theorem searches_memory_eq_searches_nil_heat :
    let before := [(filmQuery "Heat" none (some 1), false),
      (filmQuery "HEAT" (some "1995") (some 2), false), (filmQuery "Ronin" none none, true)]
    let requests := before ++ [(filmQuery "heat" none (some 1), true)]
    (∀ catalog ∈ [("tmdb", filmInParts)], catalog.2.IgnoresCase) ∧
    (∀ request ∈ requests, request.1.IsNormal) ∧
    (∀ request ∈ before, request.1.SameButPart (filmQuery "heat" none (some 1)) →
      request.1.part = some 1) ∧
    (Resolver.searches ⟨[MemoryStore.tier], sourcesOf [("tmdb", filmInParts)]⟩ ["tmdb"]
        requests {}).1[3]? =
      (Resolver.searches (m := StateM MemoryStore) ⟨[], sourcesOf [("tmdb", filmInParts)]⟩
        ["tmdb"] requests {}).1[3]? := by
  intro before requests
  have hcase : ∀ catalog ∈ [("tmdb", filmInParts)], catalog.2.IgnoresCase := by
    simpa using filmInParts_ignoresCase
  have hnormal : ∀ request ∈ requests, request.1.IsNormal := by
    have hterm (term : String) (hterm : term = Text.normalize term) (part : Option UInt32) :
        (filmQuery term none part).IsNormal := ⟨⟨term, hterm⟩, fun _ h => nomatch h⟩
    have hyear : ∀ year, some "1995" = some year → ∀ c ∈ year.toList, c.isDigit := by
      rintro _ ⟨⟩
      exact List.all_eq_true.mp (by decide)
    simp only [requests, before, List.cons_append, List.nil_append, List.forall_mem_cons,
      List.not_mem_nil, false_implies, implies_true, and_true]
    exact ⟨hterm "Heat" (by decide +kernel) _, ⟨⟨"HEAT", by decide +kernel⟩, hyear⟩,
      hterm "Ronin" (by decide +kernel) _, hterm "heat" (by decide +kernel) _⟩
  have hpart : ∀ request ∈ before, request.1.SameButPart (filmQuery "heat" none (some 1)) →
      request.1.part = some 1 := by
    decide +kernel
  exact ⟨hcase, hnormal, hpart,
    searches_memory_eq_searches_nil _ hcase ["tmdb"] before [] _ true hnormal hpart⟩

/-- A search for the second part of a film is answered with the first, once that was asked for. -/
theorem searches_memory_ne_of_parts :
    let requests :=
      [(filmQuery "heat" none (some 1), false), (filmQuery "heat" none (some 2), false)]
    filmInParts.IgnoresCase ∧ (∀ request ∈ requests, request.1.IsNormal) ∧
    (Resolver.searches ⟨[MemoryStore.tier], sourcesOf [("tmdb", filmInParts)]⟩ ["tmdb"]
        requests {}).1[1]? ≠
      (Resolver.searches (m := StateM MemoryStore) ⟨[], sourcesOf [("tmdb", filmInParts)]⟩
        ["tmdb"] requests {}).1[1]? := by
  have hterm : "heat" = Text.normalize "heat" := by decide +kernel
  have hnormal (part : Option UInt32) : (filmQuery "heat" none part).IsNormal :=
    ⟨⟨"heat", hterm⟩, fun _ h => nomatch h⟩
  refine ⟨filmInParts_ignoresCase, ?_, ?_⟩
  · simpa using ⟨hnormal (some 1), hnormal (some 2)⟩
  · decide +kernel

end MediaShelf
