import MediaShelf.Proofs.Resolver.Transparency

/-!
# Searches in the store of a process

The store keeps what a search led to under the name of the query. It gives nothing but the truth for
queries of a certain kind if those that share a name lead to the same.

## Main definitions

* `MemoryStore.Knows` — a store whose records and searches are what the sources give

## Main results

* `MemoryStore.Knows.tier_truthful`, `MemoryStore.Knows.tier_truthfulSearches` — such a store gives
  nothing but the truth
-/

namespace MediaShelf.MemoryStore

variable {catalogs : List (String × Source.Answers)} {allowed : List String}
  {kind : Query → Prop} {store : MemoryStore}

/-- The records of the store are those of the sources, and what it keeps under the name of a query
of the kind is what the allowed sources give for the query. -/
structure Knows (catalogs : List (String × Source.Answers)) (allowed : List String)
    (kind : Query → Prop) (store : MemoryStore) : Prop where
  records : store.Agrees catalogs
  searches : ∀ {query result}, kind query → store.searches.lookup query.key = some result →
    trueSearch catalogs allowed query = .ok (some result)

namespace Knows

theorem empty : Knows catalogs allowed kind {} where
  records := .empty
  searches _ h := nomatch h

theorem putSearch (h : store.Knows catalogs allowed kind)
    (hkeys : ∀ a b, kind a → kind b → a.key = b.key →
      trueSearch catalogs allowed a = trueSearch catalogs allowed b)
    {query : Query} (hquery : kind query) {result : SearchResult}
    (hresult : trueSearch catalogs allowed query = .ok (some result)) :
    (store.putSearch query result).Knows catalogs allowed kind where
  records := ⟨h.records.shows, h.records.seasons, h.records.episodes, h.records.films⟩
  searches {other found} hother hfound := by
    rw [lookup_putSearch] at hfound
    split at hfound
    -- the query may be another one with the same name, for which the same is true
    · rename_i hkey
      rw [hkeys other query hother hquery hkey, hresult, hfound]
    · exact h.searches hother hfound

/-- Records that come and go take no part in searches. -/
theorem tier_truthful : tier.Truthful catalogs (Knows catalogs allowed kind) := by
  refine MemoryStore.tier_truthful (fun store h => h.records) ?_
  intro store next hstore hnext hsearches
  refine ⟨hnext, fun hquery hfound => ?_⟩
  rw [hsearches] at hfound
  exact hstore.searches hquery hfound

/-- Searches are true if queries of the kind that share a name lead to the same. -/
theorem tier_truthfulSearches (hkeys : ∀ a b, kind a → kind b → a.key = b.key →
      trueSearch catalogs allowed a = trueSearch catalogs allowed b) :
    tier.TruthfulSearches catalogs allowed kind (Knows catalogs allowed kind) where
  searchMedia query hquery := by
    intro store hstore
    refine ⟨fun result h => ?_, hstore⟩
    -- a result of another source than the allowed ones is passed over
    have hfilter : (store.searches.lookup query.key).filter
        (allowed.contains ·.sourceId) = some result := Except.ok.inj h
    exact hstore.searches hquery (Option.filter_eq_some_iff.mp hfilter).1
  cacheSearch _ hquery _ hresult := fun _ hstore =>
    ⟨trivial, hstore.putSearch hkeys hquery hresult⟩

end Knows

end MediaShelf.MemoryStore
