import MediaShelf.Proofs.Record.Season
import MediaShelf.Proofs.Store.Memory

/-!
# Stores that agree with themselves

A store keeps the entries of a season twice: as part of the season, and each by itself. Both copies
say the same as long as every season is well-formed and no entry is put beside a season that has
another one under its number.

Of two stores, one above the other, the upper one may hold entries whose season it does not know.
If it knows a season, the lower one has the same, apart from the moment when a new season has been
put into the upper one alone.

## Main definitions

* `MemoryStore.Consistent` — the two copies of entries agree
* `MemoryStore.Coherent` — both are consistent, and the lower store has the seasons of the upper one
* `MemoryStore.Ahead` — the upper store has a season before the lower one does

## Main results

* `Consistent.findEpisode?` — where a season is kept, its entries are found as it has them
* `Consistent.putSeason`, `Consistent.putEpisode` — writes after which a store is still consistent
* `Coherent.putEpisode` — an entry that the lower store alone knows is copied into the upper one
* `Coherent.ahead`, `Ahead.coherent` — a season on its way through both stores
-/

namespace MediaShelf.MemoryStore

variable {store upper lower : MemoryStore} {season : Season} {episode : Episode} {key : EpisodeKey}

/-- Seasons are well-formed and under their keys, entries are under keys of their own, and where a
season is kept, the entries kept beside it are what it has under their numbers. -/
structure Consistent (store : MemoryStore) : Prop where
  seasons : ∀ key season, store.seasons.lookup key = some season →
    season.key = key ∧ season.WellFormed
  episodes : ∀ key episode, store.episodes.lookup key = some episode → key ∈ episode.keys
  agree : ∀ key episode season, store.episodes.lookup key = some episode →
    store.seasons.lookup key.season = some season →
      season.numbered? key.special key.number = some episode

/-- A key of an entry is one of its season. -/
theorem season_of_mem_keys (h : key ∈ episode.keys) : key.season = episode.seasonKey := by
  obtain ⟨number, -, rfl⟩ := List.mem_map.mp h
  rfl

theorem consistent_empty : ({} : MemoryStore).Consistent where
  seasons _ _ h := nomatch h
  episodes _ _ h := nomatch h
  agree _ _ _ h := nomatch h

namespace Consistent

/-- Where a season is kept, its entries are found as it has them. -/
theorem findEpisode? (h : store.Consistent)
    (hseason : store.seasons.lookup key.season = some season) :
    store.findEpisode? key = season.numbered? key.special key.number := by
  rw [MemoryStore.findEpisode?, hseason, Option.bind_some]
  cases hown : store.episodes.lookup key with
  | none => rfl
  | some episode => exact (h.agree key episode season hown hseason).symm

/-- What is found under a key has the key. -/
theorem mem_keys (h : store.Consistent) (hfound : store.findEpisode? key = some episode) :
    key ∈ episode.keys := by
  cases hseason : store.seasons.lookup key.season with
  | some season =>
    rw [h.findEpisode? hseason] at hfound
    obtain ⟨hkey, hformed⟩ := h.seasons _ season hseason
    have hmem := hformed.mem_keys hfound
    rwa [hkey] at hmem
  | none =>
    rw [MemoryStore.findEpisode?, hseason, Option.bind_none, Option.or_none] at hfound
    exact h.episodes key episode hfound

theorem putSeason (h : store.Consistent) (hformed : season.WellFormed) :
    (store.putSeason season).Consistent where
  seasons key kept hkept := by
    rw [seasons_putSeason] at hkept
    split at hkept
    · rename_i hkey
      obtain rfl := Option.some.inj hkept
      exact ⟨hkey.symm, hformed⟩
    · exact h.seasons key kept hkept
  episodes key episode hfound := by
    rw [episodes_putSeason] at hfound
    split at hfound
    · cases hfound
    · exact h.episodes key episode hfound
  agree key episode kept hfound hkept := by
    rw [episodes_putSeason] at hfound
    split at hfound
    -- what was kept of the season before is dropped with it
    · cases hfound
    · rename_i hkey
      rw [seasons_putSeason, if_neg hkey] at hkept
      exact h.agree key episode kept hfound hkept

/-- An entry may be put where its season is not kept, or has it. -/
theorem putEpisode (h : store.Consistent)
    (hmem : ∀ season, store.seasons.lookup episode.seasonKey = some season →
      episode ∈ season.episodes ++ season.specials) :
    (store.putEpisode episode).Consistent where
  seasons := h.seasons
  episodes key found hfound := by
    rw [lookup_putEpisode] at hfound
    split at hfound
    · rename_i hkey
      exact Option.some.inj hfound ▸ hkey
    · exact h.episodes key found hfound
  agree key found season hfound hseason := by
    rw [lookup_putEpisode] at hfound
    split at hfound
    · rename_i hkey
      have hseason : store.seasons.lookup key.season = some season := hseason
      have hown : episode ∈ season.episodes ++ season.specials :=
        hmem season (season_of_mem_keys hkey ▸ hseason)
      rw [← hfound]
      exact ((h.seasons _ season hseason).2.numbered?_of_mem hown hkey).2
    · exact h.agree key found season hfound hseason

/-- An entry of a season that is kept. -/
theorem putEntry (h : store.Consistent) (hseason : store.seasons.lookup season.key = some season)
    (hmem : episode ∈ season.episodes ++ season.specials) :
    (store.putEpisode episode).Consistent := by
  obtain ⟨-, hformed⟩ := h.seasons _ season hseason
  have hkey : episode.seasonKey = season.key := hformed.seasonKey_of_mem hmem
  refine h.putEpisode fun kept hkept => ?_
  rw [hkey, hseason] at hkept
  exact Option.some.inj hkept ▸ hmem

/-- Shows are kept apart from seasons. -/
theorem putShow (h : store.Consistent) (record : Show) : (store.putShow record).Consistent :=
  ⟨h.seasons, h.episodes, h.agree⟩

/-- So are films. -/
theorem putFilm (h : store.Consistent) (film : Film) : (store.putFilm film).Consistent :=
  ⟨h.seasons, h.episodes, h.agree⟩

end Consistent

/-! ### One store above another -/

/-- Both stores are consistent, and the lower one has the seasons of the upper one. -/
structure Coherent (upper lower : MemoryStore) : Prop where
  consistentUpper : upper.Consistent
  consistentLower : lower.Consistent
  seasons : ∀ key season, upper.seasons.lookup key = some season →
    lower.seasons.lookup key = some season

/-- The upper store has the season, which the lower one may not have yet. -/
structure Ahead (season : Season) (upper lower : MemoryStore) : Prop where
  consistentUpper : upper.Consistent
  consistentLower : lower.Consistent
  ahead : upper.seasons.lookup season.key = some season
  seasons : ∀ key ≠ season.key, ∀ other, upper.seasons.lookup key = some other →
    lower.seasons.lookup key = some other

namespace Coherent

/-- Where the upper store has the season, the stores have the same entries of it. -/
theorem findEpisode?_eq (h : upper.Coherent lower)
    (hseason : upper.seasons.lookup key.season = some season) :
    lower.findEpisode? key = upper.findEpisode? key := by
  rw [h.consistentUpper.findEpisode? hseason,
    h.consistentLower.findEpisode? (h.seasons _ season hseason)]

/-- An entry that the lower store has, but not the upper one, may be copied. -/
theorem putEpisode (h : upper.Coherent lower) (hnone : upper.findEpisode? key = none)
    (hfound : lower.findEpisode? key = some episode) :
    (upper.putEpisode episode).Coherent lower where
  consistentUpper := by
    refine h.consistentUpper.putEpisode fun season hseason => ?_
    rw [← season_of_mem_keys (h.consistentLower.mem_keys hfound)] at hseason
    -- had the upper store the season, it would have the entry
    rw [h.findEpisode?_eq hseason, hnone] at hfound
    cases hfound
  consistentLower := h.consistentLower
  seasons := h.seasons

/-- An entry of a season that the lower store has. -/
theorem putEntry_lower (h : upper.Coherent lower)
    (hkept : lower.seasons.lookup season.key = some season)
    (hmem : episode ∈ season.episodes ++ season.specials) :
    upper.Coherent (lower.putEpisode episode) :=
  ⟨h.consistentUpper, h.consistentLower.putEntry hkept hmem, h.seasons⟩

/-- A season starts at the top. -/
theorem ahead (h : upper.Coherent lower) (hformed : season.WellFormed) :
    Ahead season (upper.putSeason season) lower where
  consistentUpper := h.consistentUpper.putSeason hformed
  consistentLower := h.consistentLower
  ahead := by rw [seasons_putSeason, if_pos rfl]
  seasons key hkey other hother := by
    rw [seasons_putSeason, if_neg hkey] at hother
    exact h.seasons key other hother

end Coherent

namespace Ahead

theorem putEntry_upper (h : Ahead season upper lower)
    (hmem : episode ∈ season.episodes ++ season.specials) :
    Ahead season (upper.putEpisode episode) lower :=
  ⟨h.consistentUpper.putEntry h.ahead hmem, h.consistentLower, h.ahead, h.seasons⟩

theorem putSeason_lower (h : Ahead season upper lower) :
    Ahead season upper (lower.putSeason season) where
  consistentUpper := h.consistentUpper
  consistentLower := h.consistentLower.putSeason (h.consistentUpper.seasons _ season h.ahead).2
  ahead := h.ahead
  seasons key hkey other hother := by
    rw [seasons_putSeason, if_neg hkey]
    exact h.seasons key hkey other hother

/-- Once the season is in the lower store as well, the stores are coherent. -/
theorem coherent (h : Ahead season upper lower)
    (hkept : lower.seasons.lookup season.key = some season) : upper.Coherent lower where
  consistentUpper := h.consistentUpper
  consistentLower := h.consistentLower
  seasons key other hother := by
    by_cases hkey : key = season.key
    · subst hkey
      rw [hkept, ← h.ahead, hother]
    · exact h.seasons key hkey other hother

end Ahead

end MediaShelf.MemoryStore
