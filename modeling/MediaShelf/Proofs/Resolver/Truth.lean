import MediaShelf.Proofs.Record.Season
import MediaShelf.Resolver
import MediaShelf.Source.Call

/-!
# What sources give

Requests to a resolver, and what sources that always answer the same give for them. An episode is
what the season of its source has under its number.

## Main definitions

* `Lookup`, `Reply` — requests to a resolver and what comes back
* `Resolver.replies` — requests in order, with any refresh flags
* `Source.Answers.Faithful` — the answers of a source carry the keys they were asked for
* `Source.Answers.IgnoresCase` — the answers of a source to searches do not depend on letter case
* `trueReply`, `trueSearch` — what the sources give for a request, and for a search

## Main results

* `trueEpisode_of_mem` — an entry of a season is what the sources give under each of its keys
* `searchSources_sourcesOf` — the answer of the sources to a search
* `trueSearch_congr` — searches that differ in letter case alone lead to the same
-/

namespace MediaShelf

/-- What a resolver may be asked. -/
inductive Lookup where
  | show (key : CatalogKey)
  | season (key : SeasonKey)
  /-- An episode or a special. -/
  | episode (key : EpisodeKey)
  | film (key : CatalogKey)
  deriving DecidableEq, Repr

/-- What a resolver gives back. -/
inductive Reply where
  | show (answer : Except SourceError (Option Show))
  | season (answer : Except SourceError (Option Season))
  | episode (answer : Except SourceError (Option Episode))
  | film (answer : Except SourceError (Option Film))

namespace Resolver

variable {m : Type → Type} [Monad m]

/-- What the resolver gives for one request. -/
def reply (resolver : Resolver m) (lookup : Lookup) (refresh : Bool) : m Reply :=
  match lookup with
  | .show key => do return .show (← resolver.getShow key refresh)
  | .season key => do return .season (← resolver.getSeason key refresh)
  | .episode key => do return .episode (← resolver.getEpisode key refresh)
  | .film key => do return .film (← resolver.getFilm key refresh)

/-- What the resolver gives for requests in order, each with its refresh flag. -/
def replies (resolver : Resolver m) : List (Lookup × Bool) → m (List Reply)
  | [] => return []
  | (lookup, refresh) :: rest => do
    let first ← resolver.reply lookup refresh
    return first :: (← replies resolver rest)

end Resolver

/-- The answers of the source with the id carry that id and the keys they were asked for, and its
seasons are well-formed. -/
structure Source.Answers.Faithful (id : String) (answers : Source.Answers) : Prop where
  getShow : ∀ {key record}, answers.getShow key = .ok (some record) → record.key = ⟨id, key⟩
  getSeason : ∀ {key n season}, answers.getSeason key n = .ok (some season) →
    season.key = ⟨id, key, n⟩ ∧ season.WellFormed
  getFilm : ∀ {key film}, answers.getFilm key = .ok (some film) → film.key = ⟨id, key⟩

/-- Searches whose terms differ in letter case alone have the same answer. -/
def Source.Answers.IgnoresCase (answers : Source.Answers) : Prop :=
  ∀ a b : Query, Text.lowercase a.term.toList = Text.lowercase b.term.toList → a.year = b.year →
    a.mode = b.mode → a.part = b.part → answers.searchMedia a = answers.searchMedia b

/-- Sources that are given by their ids and answers. -/
def sourcesOf {m : Type → Type} [Monad m] (catalogs : List (String × Source.Answers)) :
    List (Source m) :=
  catalogs.map fun catalog => .ofAnswers catalog.1 catalog.2

section Truth

variable (catalogs : List (String × Source.Answers))

/-- The answer of the first source with the id; an id that no source has leads to nothing. -/
def askSource {α : Type} (sourceId : String)
    (ask : Source.Answers → Except SourceError (Option α)) : Except SourceError (Option α) :=
  match catalogs.find? (·.1 == sourceId) with
  | some catalog => ask catalog.2
  | none => .ok none

/-- The show that the sources give for a key. -/
def trueShow (key : CatalogKey) : Except SourceError (Option Show) :=
  askSource catalogs key.sourceId (·.getShow key.id)

/-- The season that the sources give for a key. -/
def trueSeason (key : SeasonKey) : Except SourceError (Option Season) :=
  askSource catalogs key.sourceId (·.getSeason key.showId key.season)

/-- The entry that the season of the sources has for a key. -/
def trueEpisode (key : EpisodeKey) : Except SourceError (Option Episode) :=
  (trueSeason catalogs key.season).map (·.bind (·.numbered? key.special key.number))

/-- The film that the sources give for a key. -/
def trueFilm (key : CatalogKey) : Except SourceError (Option Film) :=
  askSource catalogs key.sourceId (·.getFilm key.id)

/-- What the sources give for a request. -/
def trueReply : Lookup → Reply
  | .show key => .show (trueShow catalogs key)
  | .season key => .season (trueSeason catalogs key)
  | .episode key => .episode (trueEpisode catalogs key)
  | .film key => .film (trueFilm catalogs key)

/-- The first answer of one of the catalogs that is a result or a failure. -/
def firstAnswer (query : Query) :
    List (String × Source.Answers) → Except SourceError (Option SearchResult)
  | [] => .ok none
  | catalog :: catalogs =>
    match catalog.2.searchMedia query with
    | .ok none => firstAnswer query catalogs
    | answer => answer

/-- What the allowed sources give for a search. -/
def trueSearch (allowed : List String) (query : Query) :
    Except SourceError (Option SearchResult) :=
  firstAnswer query (catalogs.filter (allowed.contains ·.1))

end Truth

/-! ### Records under their own keys

`Faithful` sources give records under the keys they were asked for, so a record that came from a
source may be written under its own keys. -/

section Keys

variable {catalogs : List (String × Source.Answers)}

theorem askSource_eq_some {α : Type} {sourceId : String}
    {ask : Source.Answers → Except SourceError (Option α)} {value : α}
    (h : askSource catalogs sourceId ask = .ok (some value)) :
    ∃ catalog ∈ catalogs, catalog.1 = sourceId ∧ ask catalog.2 = .ok (some value) := by
  unfold askSource at h
  split at h
  · rename_i catalog hfind
    exact ⟨catalog, List.mem_of_find?_eq_some hfind, by simpa using List.find?_some hfind, h⟩
  · cases h

theorem key_of_trueShow (hfaithful : ∀ catalog ∈ catalogs, catalog.2.Faithful catalog.1)
    {key : CatalogKey} {record : Show} (h : trueShow catalogs key = .ok (some record)) :
    record.key = key := by
  obtain ⟨catalog, hmem, hid, hanswer⟩ := askSource_eq_some h
  rw [(hfaithful catalog hmem).getShow hanswer, hid]

theorem key_of_trueFilm (hfaithful : ∀ catalog ∈ catalogs, catalog.2.Faithful catalog.1)
    {key : CatalogKey} {film : Film} (h : trueFilm catalogs key = .ok (some film)) :
    film.key = key := by
  obtain ⟨catalog, hmem, hid, hanswer⟩ := askSource_eq_some h
  rw [(hfaithful catalog hmem).getFilm hanswer, hid]

theorem wellFormed_of_trueSeason
    (hfaithful : ∀ catalog ∈ catalogs, catalog.2.Faithful catalog.1) {key : SeasonKey}
    {season : Season} (h : trueSeason catalogs key = .ok (some season)) :
    season.key = key ∧ season.WellFormed := by
  obtain ⟨catalog, hmem, hid, hanswer⟩ := askSource_eq_some h
  obtain ⟨hkey, hformed⟩ := (hfaithful catalog hmem).getSeason hanswer
  exact ⟨by rw [hkey, hid], hformed⟩

/-- An entry of a season of the sources is what they give under each key of the entry. -/
theorem trueEpisode_of_mem (hfaithful : ∀ catalog ∈ catalogs, catalog.2.Faithful catalog.1)
    {season : Season} {key : SeasonKey} (h : trueSeason catalogs key = .ok (some season))
    {episode : Episode} (hmem : episode ∈ season.episodes ++ season.specials)
    {own : EpisodeKey} (hown : own ∈ episode.keys) :
    trueEpisode catalogs own = .ok (some episode) := by
  obtain ⟨hkey, hformed⟩ := wellFormed_of_trueSeason hfaithful h
  obtain ⟨hseason, hnumbered⟩ := hformed.numbered?_of_mem hmem hown
  simp [trueEpisode, hseason, hkey, h, Except.map, hnumbered]

/-- An episode that the sources give under some key is what they give under all of its keys. -/
theorem trueEpisode_of_trueEpisode
    (hfaithful : ∀ catalog ∈ catalogs, catalog.2.Faithful catalog.1) {key own : EpisodeKey}
    {episode : Episode} (h : trueEpisode catalogs key = .ok (some episode))
    (hown : own ∈ episode.keys) : trueEpisode catalogs own = .ok (some episode) := by
  unfold trueEpisode at h
  match hseason : trueSeason catalogs key.season with
  | .error _ => simp [hseason, Except.map] at h
  | .ok none => simp [hseason, Except.map] at h
  | .ok (some season) =>
    have hnumbered : season.numbered? key.special key.number = some episode := by
      simpa [hseason, Except.map] using h
    exact trueEpisode_of_mem hfaithful hseason (Season.mem_of_numbered? hnumbered).1 hown

theorem find?_sourcesOf {m : Type → Type} [Monad m] {sourceId : String} :
    (sourcesOf (m := m) catalogs).find? (·.sourceId == sourceId) =
      (catalogs.find? (·.1 == sourceId)).map fun catalog => .ofAnswers catalog.1 catalog.2 := by
  rw [sourcesOf, List.find?_map]
  rfl

end Keys

/-! ### Searches -/

section Searches

variable {m : Type → Type} [Monad m] [LawfulMonad m] {catalogs : List (String × Source.Answers)}

/-- The sources give the first answer of their catalogs, and nothing else happens. -/
theorem searchSources_eq_firstAnswer (query : Query) :
    Resolver.searchSources (m := m) query (sourcesOf catalogs) =
      pure (firstAnswer query catalogs) := by
  induction catalogs with
  | nil => rfl
  | cons catalog catalogs ih =>
    have hfirst : (Source.ofAnswers (m := m) catalog.1 catalog.2).searchMedia query =
        pure (catalog.2.searchMedia query) := rfl
    rw [sourcesOf, List.map_cons, Resolver.searchSources, hfirst, pure_bind, firstAnswer]
    -- only a catalog that knows nothing leaves the search to the others
    match catalog.2.searchMedia query with
    | .ok none => exact ih
    | .ok (some _) => rfl
    | .error _ => rfl

/-- The answer of the allowed sources to a search. -/
theorem searchSources_sourcesOf (allowed : List String) (query : Query) :
    Resolver.searchSources (m := m) query
        ((sourcesOf catalogs).filter (allowed.contains ·.sourceId)) =
      pure (trueSearch catalogs allowed query) := by
  rw [trueSearch, ← searchSources_eq_firstAnswer, sourcesOf, sourcesOf, List.filter_map]
  rfl

/-- Searches that differ in letter case alone lead to the same. -/
theorem trueSearch_congr (hcase : ∀ catalog ∈ catalogs, catalog.2.IgnoresCase)
    {allowed : List String} {a b : Query}
    (hterm : Text.lowercase a.term.toList = Text.lowercase b.term.toList)
    (hyear : a.year = b.year) (hmode : a.mode = b.mode) (hpart : a.part = b.part) :
    trueSearch catalogs allowed a = trueSearch catalogs allowed b := by
  have hcase : ∀ catalog ∈ catalogs.filter (allowed.contains ·.1), catalog.2.IgnoresCase :=
    fun catalog hmem => hcase catalog (List.mem_filter.mp hmem).1
  unfold trueSearch
  generalize catalogs.filter (allowed.contains ·.1) = asked at hcase
  induction asked with
  | nil => rfl
  | cons catalog asked ih =>
    rw [firstAnswer, firstAnswer, hcase catalog List.mem_cons_self a b hterm hyear hmode hpart,
      ih fun other hmem => hcase other (List.mem_cons_of_mem _ hmem)]

end Searches

end MediaShelf
