import MediaShelf.Proofs.Sorting
import MediaShelf.Proofs.Text.Split
import MediaShelf.Source.TvMaze

/-!
# Seasons from lists of episodes

The catalog lists all episodes of a show at once. The season that is made of them has a record for
each of its entries and no others: regular episodes under their own numbers and in their order,
specials numbered in the order of the list.

## Main definitions

* `EpisodeEntry.IsSpecial`, `EpisodeEntry.IsRegular` — the two kinds of entries
* `EpisodeEntry.record` — what the season holds of an entry
* `IsSeasonOf` — a season that holds its entries and nothing else

## Main results

* `seasonOf?_isSeasonOf` — a season is made if it has entries, and then of all of them
-/

namespace MediaShelf

variable {showId : String} {number n : UInt32}

namespace TvMaze

variable {entry : EpisodeEntry} {entries : List EpisodeEntry}

/-! ### Entries -/

/-- An entry without a number, or with a kind that has the word in it. -/
def EpisodeEntry.IsSpecial (entry : EpisodeEntry) : Prop :=
  entry.number = none ∨ ∃ kind, entry.kind = some kind ∧ "special".toList <:+: kind.toList

theorem EpisodeEntry.isSpecial_iff : entry.isSpecial ↔ entry.IsSpecial := by
  simp only [isSpecial, IsSpecial, Bool.or_eq_true, Option.isNone_iff_eq_none, Option.any_eq_true,
    Text.isSome_behind? (show "special".toList ≠ [] by decide)]

instance : DecidablePred EpisodeEntry.IsSpecial :=
  fun _ => decidable_of_iff _ EpisodeEntry.isSpecial_iff

/-- An entry that is no special and has the number. -/
def EpisodeEntry.IsRegular (n : UInt32) (entry : EpisodeEntry) : Prop :=
  entry.number = some n ∧ ¬entry.IsSpecial

/-- There are no other entries. -/
theorem EpisodeEntry.isSpecial_or_isRegular (entry : EpisodeEntry) :
    entry.IsSpecial ∨ ∃ n, entry.IsRegular n := by
  by_cases hspecial : entry.IsSpecial
  · exact .inl hspecial
  · obtain ⟨n, hn⟩ := Option.ne_none_iff_exists'.mp fun hnone => hspecial (.inl hnone)
    exact .inr ⟨n, hn, hspecial⟩

instance : DecidablePred (EpisodeEntry.IsRegular n) :=
  fun entry => inferInstanceAs (Decidable (entry.number = some n ∧ ¬entry.IsSpecial))

/-- What a season holds of an entry: its texts and dates, under the keys of the season and a
number. -/
def EpisodeEntry.record (showId : String) (season : UInt32) (special : Bool) (n : UInt32)
    (entry : EpisodeEntry) : Episode where
  sourceId := TvMaze.id
  showId := showId
  seasonNumber := season
  episodeNumbers := [n]
  title := entry.name.getD "Unknown"
  summary := plainSummary entry.summary
  airDate := entry.airDate.filter (! ·.isEmpty)
  url := entry.url
  special := special

theorem EpisodeEntry.toEpisode_eq (entry : EpisodeEntry) (showId : String) (n : UInt32) :
    entry.toEpisode showId n = entry.record showId entry.season entry.isSpecial n := rfl

/-- A season that holds its entries and nothing else. -/
structure IsSeasonOf (showId : String) (number : UInt32) (entries : List EpisodeEntry)
    (season : Season) : Prop where
  keys : season.sourceId = TvMaze.id ∧ season.showId = showId ∧ season.seasonNumber = number
  /-- Every episode has one number. -/
  single : ∀ e ∈ season.episodes, ∃ n, e.episodeNumbers = [n]
  /-- The episodes stand in the order of their numbers. -/
  sorted : season.episodes.Pairwise fun a b =>
    ∀ n ∈ a.episodeNumbers, ∀ m ∈ b.episodeNumbers, n ≤ m
  /-- The episodes with a number are the records of all regular entries with it, in their order. -/
  numbered : ∀ n, season.episodes.filter (·.episodeNumbers = [n]) =
    (entries.filter fun e => e.season = number ∧ e.IsRegular n).map
      (EpisodeEntry.record showId number false n)
  /-- The specials are the records of all special entries in their order, numbered from one on. -/
  specials : ∀ i : Nat, season.specials[i]? =
    (entries.filter fun e => e.season = number ∧ e.IsSpecial)[i]?.map
      (EpisodeEntry.record showId number true (i + 1).toUInt32)

/-! ### Regular episodes -/

/-- The regular entries with their numbers, in the order of the list. -/
def numberedEpisodes (showId : String) (entries : List EpisodeEntry) : List (UInt32 × Episode) :=
  (entries.filter (! ·.isSpecial)).filterMap fun entry =>
    entry.number.map fun number => (number, entry.toEpisode showId number)

theorem ascending_trans (a b c : UInt32 × Episode) (hab : decide (a.1 ≤ b.1))
    (hbc : decide (b.1 ≤ c.1)) : decide (a.1 ≤ c.1) :=
  decide_eq_true (UInt32.le_trans (of_decide_eq_true hab) (of_decide_eq_true hbc))

theorem ascending_total (a b : UInt32 × Episode) :
    decide (a.1 ≤ b.1) || decide (b.1 ≤ a.1) := by
  simpa using UInt32.le_total a.1 b.1

theorem numberedEpisodes_cons_of_isSpecial (h : entry.IsSpecial) :
    numberedEpisodes showId (entry :: entries) = numberedEpisodes showId entries := by
  simp [numberedEpisodes, EpisodeEntry.isSpecial_iff.mpr h]

theorem numberedEpisodes_cons_of_isRegular (h : entry.IsRegular n) :
    numberedEpisodes showId (entry :: entries) =
      (n, entry.record showId entry.season false n) :: numberedEpisodes showId entries := by
  have hspecial : entry.isSpecial = false := by simpa using mt EpisodeEntry.isSpecial_iff.mp h.2
  simp [numberedEpisodes, hspecial, h.1, EpisodeEntry.toEpisode_eq]

/-- The numbered episodes with a number are the records of the regular entries with it. -/
theorem filter_numberedEpisodes (h : ∀ entry ∈ entries, entry.season = number) :
    (numberedEpisodes showId entries).filter (·.1 = n) =
      (entries.filter fun e => e.IsRegular n).map
        fun entry => (n, entry.record showId number false n) := by
  induction entries with
  | nil => rfl
  | cons entry entries ih =>
    obtain ⟨rfl, hrest⟩ := List.forall_mem_cons.mp h
    rcases entry.isSpecial_or_isRegular with hspecial | ⟨m, hregular⟩
    · have hskip : ¬entry.IsRegular n := fun hregular => hregular.2 hspecial
      rw [numberedEpisodes_cons_of_isSpecial hspecial, ih hrest]
      simp [hskip]
    · rw [numberedEpisodes_cons_of_isRegular hregular, List.filter_cons, ih hrest]
      by_cases hm : m = n
      · subst hm
        simp [hregular]
      · have hskip : ¬entry.IsRegular n := fun hother => hm (by simpa [hregular.1] using hother.1)
        simp [hm, hskip]

/-- The numbered episodes in the order of their numbers. -/
def sortedEpisodes (showId : String) (entries : List EpisodeEntry) : List (UInt32 × Episode) :=
  (numberedEpisodes showId entries).mergeSort fun a b => a.1 ≤ b.1

theorem regularEpisodes_eq (showId : String) (entries : List EpisodeEntry) :
    regularEpisodes showId entries = (sortedEpisodes showId entries).map (·.2) := rfl

theorem episodeNumbers_of_mem_sortedEpisodes {pair : UInt32 × Episode}
    (h : pair ∈ sortedEpisodes showId entries) : pair.2.episodeNumbers = [pair.1] := by
  obtain ⟨entry, -, hentry⟩ := List.mem_filterMap.mp (List.mem_mergeSort.mp h)
  obtain ⟨m, -, rfl⟩ := Option.map_eq_some_iff.mp hentry
  rfl

theorem pairwise_sortedEpisodes (showId : String) (entries : List EpisodeEntry) :
    (sortedEpisodes showId entries).Pairwise fun a b => a.1 ≤ b.1 :=
  (List.pairwise_mergeSort ascending_trans ascending_total _).imp of_decide_eq_true

/-- The episodes with a number are the records of the regular entries with it. -/
theorem filter_regularEpisodes (h : ∀ entry ∈ entries, entry.season = number) :
    (regularEpisodes showId entries).filter (·.episodeNumbers = [n]) =
      (entries.filter fun e => e.IsRegular n).map (EpisodeEntry.record showId number false n) := by
  have hequal : ((numberedEpisodes showId entries).filter (·.1 = n)).Pairwise
      fun a b => decide (a.1 ≤ b.1) := by
    refine List.pairwise_of_forall_mem_list fun a ha b hb => ?_
    have ha : a.1 = n := by simpa using (List.mem_filter.mp ha).2
    have hb : b.1 = n := by simpa using (List.mem_filter.mp hb).2
    simp [ha, hb]
  have hsame : (sortedEpisodes showId entries).filter (fun pair => pair.2.episodeNumbers = [n]) =
      (sortedEpisodes showId entries).filter (·.1 = n) := by
    refine List.filter_congr fun pair hpair => ?_
    rw [episodeNumbers_of_mem_sortedEpisodes hpair]
    simp
  rw [regularEpisodes_eq, List.filter_map]
  exact calc
    _ = ((sortedEpisodes showId entries).filter (·.1 = n)).map (·.2) := congrArg _ hsame
    _ = ((numberedEpisodes showId entries).filter (·.1 = n)).map (·.2) :=
      congrArg _ (filter_mergeSort ascending_trans ascending_total hequal)
    _ = _ := by rw [filter_numberedEpisodes h, List.map_map]; rfl

/-- The episodes stand in the order of their numbers, of which each has one. -/
theorem pairwise_regularEpisodes (showId : String) (entries : List EpisodeEntry) :
    (∀ e ∈ regularEpisodes showId entries, ∃ n, e.episodeNumbers = [n]) ∧
      (regularEpisodes showId entries).Pairwise fun a b =>
        ∀ n ∈ a.episodeNumbers, ∀ m ∈ b.episodeNumbers, n ≤ m := by
  rw [regularEpisodes_eq]
  constructor
  · intro e he
    obtain ⟨pair, hpair, rfl⟩ := List.mem_map.mp he
    exact ⟨_, episodeNumbers_of_mem_sortedEpisodes hpair⟩
  · refine List.pairwise_map.mpr ((pairwise_sortedEpisodes showId entries).imp_of_mem ?_)
    intro a b ha hb hle
    rw [episodeNumbers_of_mem_sortedEpisodes ha, episodeNumbers_of_mem_sortedEpisodes hb]
    simpa using hle

/-! ### Specials -/

/-- The specials are the records of the special entries, numbered in their order. -/
theorem getElem?_specialEpisodes (h : ∀ entry ∈ entries, entry.season = number) (i : Nat) :
    (specialEpisodes showId entries)[i]? = (entries.filter fun e => e.IsSpecial)[i]?.map
      (EpisodeEntry.record showId number true (i + 1).toUInt32) := by
  have hsame : entries.filter (·.isSpecial) = entries.filter fun e => e.IsSpecial :=
    List.filter_congr fun entry _ => by simp [← EpisodeEntry.isSpecial_iff]
  rw [specialEpisodes, hsame, List.getElem?_mapIdx]
  refine Option.map_congr fun entry hentry => ?_
  obtain ⟨hmem, hspecial⟩ := List.mem_filter.mp (List.mem_of_getElem? hentry)
  rw [EpisodeEntry.toEpisode_eq, h entry hmem,
    EpisodeEntry.isSpecial_iff.mpr (of_decide_eq_true hspecial)]

/-! ### The season -/

/-- The entries of a kind among those of the season. -/
theorem filter_season (entries : List EpisodeEntry) (kind : EpisodeEntry → Prop)
    [DecidablePred kind] :
    (entries.filter (·.season == number)).filter (fun e => kind e) =
      entries.filter fun e => e.season = number ∧ kind e := by
  rw [List.filter_filter]
  refine List.filter_congr fun e _ => ?_
  rw [Bool.eq_iff_iff]
  simp [and_comm]

/-- A season that is made holds its entries and nothing else. -/
theorem isSeasonOf_of_seasonOf? {season : Season}
    (h : seasonOf? showId number entries = some season) :
    IsSeasonOf showId number entries season := by
  have hseason : ∀ entry ∈ entries.filter (·.season == number), entry.season = number := by
    intro entry hentry
    simpa using (List.mem_filter.mp hentry).2
  rw [seasonOf?] at h
  split at h
  · cases h
  · obtain rfl := Option.some.inj h
    obtain ⟨hsingle, hsorted⟩ :=
      pairwise_regularEpisodes showId (entries.filter (·.season == number))
    refine ⟨⟨rfl, rfl, rfl⟩, hsingle, hsorted, ?_, ?_⟩
    · intro n
      rw [filter_regularEpisodes hseason, filter_season]
    · intro i
      rw [getElem?_specialEpisodes hseason, filter_season]

/-- The words for places that are counted from one on. -/
theorem toUInt32_succ_toNat_pred (n : UInt32) : ((n - 1).toNat + 1).toUInt32 = n := by
  change UInt32.ofNat ((n - 1).toNat + 1) = n
  rw [UInt32.ofNat_add, UInt32.ofNat_toNat]
  exact UInt32.sub_add_cancel n 1

/-- No place before the one that a word is for has the same word. -/
theorem toUInt32_succ_ne_of_lt {i : Nat} (h : i < (n - 1).toNat) : (i + 1).toUInt32 ≠ n := by
  rintro rfl
  have hpred : (i + 1).toUInt32 - 1 = UInt32.ofNat i := by
    change UInt32.ofNat (i + 1) - 1 = _
    rw [UInt32.ofNat_add]
    exact UInt32.add_sub_cancel _ 1
  rw [hpred, UInt32.toNat_ofNat'] at h
  exact absurd (Nat.mod_le i _) (Nat.not_le.mpr h)

namespace IsSeasonOf

variable {season : Season}

/-- An episode that is looked up is that of the first regular entry with the number. -/
theorem episode?_eq (h : IsSeasonOf showId number entries season) (n : UInt32) :
    season.episode? n =
      (entries.find? fun e => e.season = number ∧ e.IsRegular n).map
        (EpisodeEntry.record showId number false n) := by
  have hcovers : season.episodes.filter (·.covers n) =
      season.episodes.filter (·.episodeNumbers = [n]) := by
    refine List.filter_congr fun e he => ?_
    obtain ⟨m, hm⟩ := h.single e he
    simp [Episode.covers, hm, eq_comm]
  rw [Season.episode?, ← List.head?_filter, hcovers, h.numbered, List.head?_map, List.head?_filter]

/-- A special that is looked up is the one that stands at this place, counted from one on. -/
theorem special?_eq (h : IsSeasonOf showId number entries season) (n : UInt32) :
    season.special? n = season.specials[(n - 1).toNat]? := by
  have hcovers : ∀ i e, season.specials[i]? = some e → (e.covers n ↔ (i + 1).toUInt32 = n) := by
    intro i e he
    rw [h.specials] at he
    obtain ⟨entry, -, rfl⟩ := Option.map_eq_some_iff.mp he
    simp [Episode.covers, EpisodeEntry.record, eq_comm]
  have hearlier : ∀ i e, season.specials[i]? = some e → i < (n - 1).toNat → ¬e.covers n := by
    intro i e he hi
    rw [hcovers i e he]
    exact toUInt32_succ_ne_of_lt hi
  rw [Season.special?]
  cases hspecial : season.specials[(n - 1).toNat]? with
  | none =>
    refine List.find?_eq_none.mpr fun e he => ?_
    obtain ⟨i, hi⟩ := List.mem_iff_getElem?.mp he
    have hlength := List.getElem?_eq_none_iff.mp hspecial
    have := (List.getElem?_eq_some_iff.mp hi).1
    exact hearlier i e hi (by omega)
  | some e =>
    obtain ⟨hlt, hget⟩ := List.getElem?_eq_some_iff.mp hspecial
    refine List.find?_eq_some_iff_getElem.mpr ⟨?_, _, hlt, hget, fun i hi => ?_⟩
    · exact (hcovers _ e hspecial).mpr (toUInt32_succ_toNat_pred n)
    · simpa using hearlier i _ (List.getElem?_eq_getElem (by omega)) hi

end IsSeasonOf

/-- A season is made if the list has entries of it, and then of all of them. So an episode that is
looked up is that of the first regular entry with the number, and a special the one at this
place. -/
theorem seasonOf?_isSeasonOf (showId : String) (number : UInt32) (entries : List EpisodeEntry) :
    (seasonOf? showId number entries = none ↔ ∀ entry ∈ entries, entry.season ≠ number) ∧
    ∀ season, seasonOf? showId number entries = some season →
      IsSeasonOf showId number entries season ∧
      (∀ n, season.episode? n =
        (entries.find? fun e => e.season = number ∧ e.IsRegular n).map
          (EpisodeEntry.record showId number false n)) ∧
      ∀ n, season.special? n = season.specials[(n - 1).toNat]? := by
  refine ⟨by simp [seasonOf?], fun season hseason => ?_⟩
  have h := isSeasonOf_of_seasonOf? hseason
  exact ⟨h, h.episode?_eq, h.special?_eq⟩

/-- An episode that is listed twice is found by its first entry, and a special in the second place
by that place, though it has a number of its own. -/
theorem seasonOf?_isSeasonOf_heroes :
    let entry (season : UInt32) (number : Option UInt32) (name kind : String) : EpisodeEntry :=
      { url := none, season, number, name := some name, kind := some kind, airDate := none
        summary := none }
    let entries := [
      entry 1 (some 2) "Don't Look Back" "regular", entry 1 none "Countdown" "special",
      entry 2 (some 1) "Four Months Later" "regular", entry 1 (some 1) "Genesis" "regular",
      entry 1 (some 2) "One Giant Leap" "regular", entry 1 (some 1) "Homecoming" "minor_special"]
    ∃ season, seasonOf? "1" 1 entries = some season ∧ IsSeasonOf "1" 1 entries season ∧
      (season.episode? 2).map (·.title) = some "Don't Look Back" ∧
      (season.special? 2).map (·.title) = some "Homecoming" := by
  intro entry entries
  obtain ⟨hnone, hsome⟩ := seasonOf?_isSeasonOf "1" 1 entries
  obtain ⟨season, hseason⟩ := Option.ne_none_iff_exists'.mp fun h =>
    hnone.mp h (entry 1 none "Countdown" "special") (by simp [entries]) rfl
  obtain ⟨h, hepisode, hspecial⟩ := hsome season hseason
  refine ⟨season, hseason, h, ?_, ?_⟩
  · rw [hepisode]
    decide
  · rw [hspecial, h.specials]
    decide

end TvMaze

end MediaShelf
