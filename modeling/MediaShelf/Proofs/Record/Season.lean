import Mathlib.Tactic.ByContra
import MediaShelf.Store.Basic

/-!
# Well-formed seasons

A season whose entries carry its key and the right kind, with no number in two entries of one list.
Looking such an entry up by any of its keys gives it back.

## Main definitions

* `Season.Entries` — what holds of the episodes, or of the specials, of a well-formed season
* `Season.WellFormed` — both lists together

## Main results

* `Season.WellFormed.numbered?_of_mem` — every entry is found under all of its keys
-/

namespace MediaShelf

namespace Season

/-- Entries of one kind that belong to the season with the key and share no number. -/
structure Entries (key : SeasonKey) (special : Bool) (entries : List Episode) : Prop where
  seasonKey : ∀ e ∈ entries, e.seasonKey = key
  kind : ∀ e ∈ entries, e.special = special
  disjoint : entries.Pairwise fun a b => ∀ n ∈ a.episodeNumbers, n ∉ b.episodeNumbers

/-- The entries are those of the season, of the right kind, and share no number. -/
structure WellFormed (season : Season) : Prop where
  episodes : Entries season.key false season.episodes
  specials : Entries season.key true season.specials

/-- Of entries that share no number, the first one that covers a number is the only one. -/
theorem Entries.find?_covers {key : SeasonKey} {special : Bool} {entries : List Episode}
    (h : Entries key special entries) {e : Episode} (he : e ∈ entries) {n : UInt32}
    (hn : n ∈ e.episodeNumbers) : entries.find? (·.covers n) = some e := by
  -- only the disjointness is passed on to the tail
  have hdisjoint := h.disjoint
  clear h
  induction entries with
  | nil => simp at he
  | cons a entries ih =>
    obtain ⟨hfirst, hrest⟩ := List.pairwise_cons.mp hdisjoint
    rcases List.mem_cons.mp he with rfl | he
    · simp [Episode.covers, hn]
    · have hskip : a.covers n = false := by
        by_contra hcovers
        exact hfirst e he n (by simpa [Episode.covers] using hcovers) hn
      rw [List.find?_cons_of_neg (by simp [hskip])]
      exact ih he hrest

/-- Each entry of a well-formed season is found under all of its keys. -/
theorem WellFormed.numbered?_of_mem {season : Season} (h : season.WellFormed) {e : Episode}
    (he : e ∈ season.episodes ++ season.specials) {key : EpisodeKey} (hkey : key ∈ e.keys) :
    key.season = season.key ∧ season.numbered? key.special key.number = some e := by
  obtain ⟨n, hn, rfl⟩ := List.mem_map.mp hkey
  rcases List.mem_append.mp he with he | he
  · refine ⟨h.episodes.seasonKey e he, ?_⟩
    simpa [numbered?, episode?, h.episodes.kind e he] using h.episodes.find?_covers he hn
  · refine ⟨h.specials.seasonKey e he, ?_⟩
    simpa [numbered?, special?, h.specials.kind e he] using h.specials.find?_covers he hn

/-- All entries of a well-formed season carry its key. -/
theorem WellFormed.seasonKey_of_mem {season : Season} (h : season.WellFormed) {e : Episode}
    (he : e ∈ season.episodes ++ season.specials) : e.seasonKey = season.key :=
  (List.mem_append.mp he).elim (h.episodes.seasonKey e) (h.specials.seasonKey e)

/-- What a season gives for a number is one of its entries and covers the number. -/
theorem mem_of_numbered? {season : Season} {special : Bool} {n : UInt32} {e : Episode}
    (h : season.numbered? special n = some e) :
    e ∈ season.episodes ++ season.specials ∧ n ∈ e.episodeNumbers := by
  cases special with
  | false =>
    have hfind : season.episodes.find? (·.covers n) = some e := h
    exact ⟨List.mem_append_left _ (List.mem_of_find?_eq_some hfind),
      by simpa [Episode.covers] using List.find?_some hfind⟩
  | true =>
    have hfind : season.specials.find? (·.covers n) = some e := h
    exact ⟨List.mem_append_right _ (List.mem_of_find?_eq_some hfind),
      by simpa [Episode.covers] using List.find?_some hfind⟩

/-- What a well-formed season gives under a key has the key. -/
theorem WellFormed.mem_keys {season : Season} (h : season.WellFormed) {special : Bool} {n : UInt32}
    {e : Episode} (hfound : season.numbered? special n = some e) :
    ⟨season.key, special, n⟩ ∈ e.keys := by
  obtain ⟨hmem, hn⟩ := mem_of_numbered? hfound
  have hspecial : e.special = special := by
    cases special with
    | false => exact h.episodes.kind e (List.mem_of_find?_eq_some hfound)
    | true => exact h.specials.kind e (List.mem_of_find?_eq_some hfound)
  rw [← h.seasonKey_of_mem hmem, ← hspecial]
  exact List.mem_map_of_mem hn

end Season

end MediaShelf
