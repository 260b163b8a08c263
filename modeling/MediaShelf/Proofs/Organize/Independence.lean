import MediaShelf.Organize.Basic
import MediaShelf.Proofs.Record.Query
import MediaShelf.Proofs.Resolver.Alike
import MediaShelf.Proofs.Resolver.Searches
import MediaShelf.Proofs.Search.Show

/-!
# Files of one directory do not influence each other

All files of a directory are identified with one resolver, whose store remembers what earlier files
led to. If the sources answer the same whenever they are asked the same, no file can tell: what
becomes of it is what would become of it alone.

What is identified depends on the answers of the resolver and on nothing else, so that resolvers
whose answers are alike identify files alike. The answers are alike because each of them is what the
sources give, whichever searches and records the store holds already.

## Main results

* `alike_identifyEpisode` — resolvers that answer alike identify episodes alike
* `alike_identify` — truthful stores do not show in what is identified
* `organize_eq_map_identify` — the outcomes for a directory are those for its files alone
-/

namespace MediaShelf

variable {σ τ : Type} {inv : σ → Prop} {inv' : τ → Prop}

/-! ### Programs over resolvers that answer alike -/

section Programs

theorem alike_orSkip {α : Type} {lookup : StateM σ (Except SourceError (Option α))}
    {lookup' : StateM τ (Except SourceError (Option α))} (reason : SkipReason)
    (h : Alike inv inv' lookup lookup') :
    Alike inv inv' (orSkip reason lookup).run (orSkip reason lookup').run := by
  refine h.bind fun answer => ?_
  match answer with
  | .ok (some value) => exact .pure _
  | .ok none => exact .pure _
  | .error cause => exact .pure _

theorem alike_orSkipSearch {π : Type}
    {search : StateM σ (Except SourceError (Search.SearchOutcome π))}
    {search' : StateM τ (Except SourceError (Search.SearchOutcome π))}
    (notFound unparsed : SkipReason) (h : Alike inv inv' search search') :
    Alike inv inv' (orSkipSearch notFound unparsed search).run
      (orSkipSearch notFound unparsed search').run := by
  refine h.bind fun answer => ?_
  match answer with
  | .ok (.found result parsed) => exact .pure _
  | .ok (.notFound parsed) => exact .pure _
  | .ok .unparsed => exact .pure _
  | .error cause => exact .pure _

/-- The resolver is asked nothing but the query that there is. -/
theorem alike_ask {ρ π : Type} {query? : Option (ρ × π)}
    {resolve : ρ → StateM σ (Except SourceError (Option SearchResult))}
    {resolve' : ρ → StateM τ (Except SourceError (Option SearchResult))}
    (h : ∀ query parsed, query? = some (query, parsed) →
      Alike inv inv' (resolve query) (resolve' query)) :
    Alike inv inv' (Search.ask query? resolve) (Search.ask query? resolve') := by
  cases query? with
  | none => exact .pure _
  | some pair => exact (h pair.1 pair.2 rfl).bind fun _ => .pure _

/-- A file of episodes gives a query for a show. -/
theorem isForShow_of_showQuery? {dir : MediaDirectory} {path : Path} {query : Search.ShowQuery}
    {parsed : Pattern.ParsedEpisode} (h : Search.showQuery? dir path = some (query, parsed)) :
    Query.IsForShow { term := query.term, year := query.year, mode := .tvShow } where
  mode := rfl
  part := rfl
  term := by
    have hnormal := (Search.showQuery?_asks h).term_normal
    rw [← hnormal, Text.normalize, String.toList_ofList]
    exact Text.not_mem_lowercase_of_isClean fun c => Text.isClean_of_mem_normalizeChars
  year hany := by
    -- a year starts with a digit
    obtain ⟨a, b, -, -, h | h⟩ := (Search.showQuery?_asks h).year "any" hany
    · simp at h
    · simp at h

variable {resolver : Resolver (StateM σ)} {resolver' : Resolver (StateM τ)}
  {refresh refresh' : Bool}

theorem alike_findEpisodes (hepisode : ∀ key, Alike inv inv' (resolver.getEpisode key refresh)
      (resolver'.getEpisode key refresh')) (series : Show) (season : SeasonKey)
    (numbers : List UInt32) :
    Alike inv inv' (findEpisodes resolver series season refresh numbers).run
      (findEpisodes resolver' series season refresh' numbers).run := by
  induction numbers with
  | nil => exact .pure _
  | cons number numbers ih =>
    refine .run_bind (alike_orSkip _ (hepisode _)) fun episode => ?_
    exact .run_bind ih fun episodes => .pure _

/-- Resolvers that answer alike identify episodes alike. -/
theorem alike_identifyEpisode {dir : MediaDirectory}
    (hsearch : ∀ query : Query, query.IsForShow →
      Alike inv inv' (resolver.searchMedia query dir.sources refresh)
        (resolver'.searchMedia query dir.sources refresh'))
    (hshow : ∀ key, Alike inv inv' (resolver.getShow key refresh) (resolver'.getShow key refresh'))
    (hepisode : ∀ key, Alike inv inv' (resolver.getEpisode key refresh)
      (resolver'.getEpisode key refresh')) (path : Path) :
    Alike inv inv' (identifyEpisode resolver dir refresh path).run
      (identifyEpisode resolver' dir refresh' path).run := by
  refine .run_bind (alike_orSkipSearch _ _ (alike_ask fun query parsed hquery => ?_)) ?_
  · exact hsearch _ (isForShow_of_showQuery? hquery)
  · rintro ⟨result, parsed⟩
    -- show and episodes are asked for in turn; what comes of them needs no resolver
    refine .run_bind (alike_orSkip _ (hshow _)) fun series => ?_
    refine .run_bind (alike_findEpisodes hepisode series _ _) fun records => ?_
    cases records with
    | nil => exact .pure _
    | cons first rest => exact .pure _

end Programs

/-! ### Truthful stores -/

section Stores

variable {catalogs : List (String × Source.Answers)} {tiers : List (Tier (StateM σ))}
  {tiers' : List (Tier (StateM τ))} {dir : MediaDirectory}

/-- Stores that give nothing but the truth, and refresh flags, do not show in what is identified. -/
theorem alike_identify (hfaithful : ∀ catalog ∈ catalogs, catalog.2.Faithful catalog.1)
    (hrecords : ∀ tier ∈ tiers, tier.Truthful catalogs inv)
    (hrecords' : ∀ tier ∈ tiers', tier.Truthful catalogs inv')
    (hsearches : ∀ tier ∈ tiers, tier.TruthfulSearches catalogs dir.sources Query.IsForShow inv)
    (hsearches' : ∀ tier ∈ tiers',
      tier.TruthfulSearches catalogs dir.sources Query.IsForShow inv')
    (hmode : dir.mode = .tvShow) (refresh refresh' : Bool) (path : Path) :
    Alike inv inv' (identify ⟨tiers, sourcesOf catalogs⟩ dir refresh path)
      (identify ⟨tiers', sourcesOf catalogs⟩ dir refresh' path) := by
  unfold identify
  rw [hmode]
  refine .bind (alike_identifyEpisode (fun query hquery => ?_) (fun key => ?_) (fun key => ?_) path)
    fun _ => .pure _
  · exact ⟨_, Resolver.keeps_searchMedia hsearches hquery,
      Resolver.keeps_searchMedia hsearches' hquery⟩
  · exact ⟨_, Resolver.keeps_getShow hfaithful hrecords key,
      Resolver.keeps_getShow hfaithful hrecords' key⟩
  · exact ⟨_, Resolver.keeps_getEpisode hfaithful hrecords key,
      Resolver.keeps_getEpisode hfaithful hrecords' key⟩

end Stores

/-! ### All files of a directory -/

/-- If the outcome for each file is settled, so are those for files in any order. -/
theorem keeps_identifyAll {resolver : Resolver (StateM σ)} {dir : MediaDirectory} {refresh : Bool}
    {outcome : Path → FileOutcome}
    (h : ∀ path, Keeps inv (identify resolver dir refresh path) (· = outcome path))
    (total index : Nat) (paths : List Path) :
    Keeps inv (identifyAll resolver dir refresh (fun _ => pure ()) total index paths)
      (· = paths.map outcome) := by
  have hquiet : Keeps inv (pure () : StateM σ Unit) fun _ => True := .pure trivial
  -- files get their numbers as they come, so the number of the first varies
  induction paths generalizing index with
  | nil => exact .pure rfl
  | cons path paths ih =>
    refine hquiet.bind fun _ _ => (h path).bind fun first hfirst => hquiet.bind fun _ _ => ?_
    exact (ih (index + 1)).bind fun rest hrest => .pure (by rw [hfirst, hrest, List.map_cons])

/-- The outcomes for the files that a directory has, or the reason why it cannot be searched. -/
theorem keeps_organize {resolver : Resolver (StateM σ)} {dir : MediaDirectory} {refresh : Bool}
    {outcome : Path → FileOutcome}
    (h : ∀ path, Keeps inv (identify resolver dir refresh path) (· = outcome path))
    (tree : FileTree) :
    Keeps inv (organize resolver tree dir refresh fun _ => pure ())
      (· = (dir.scan tree).map (·.map outcome)) := by
  have hquiet : Keeps inv (pure () : StateM σ Unit) fun _ => True := .pure trivial
  refine hquiet.bind fun _ _ => hquiet.bind fun _ _ => ?_
  cases dir.scan tree with
  | error e => exact .pure rfl
  | ok files =>
    refine hquiet.bind fun _ _ => (keeps_identifyAll h _ _ files).bind fun outcomes houtcomes => ?_
    refine hquiet.bind fun _ _ => .pure ?_
    rw [houtcomes, Except.map]

/-- With a store that is empty at first and sources that answer the same whenever they are asked the
same, the outcomes for the files of a directory of episodes are those that a fresh store leads to
for each file alone, whatever the refresh flags. -/
theorem organize_eq_map_identify (catalogs : List (String × Source.Answers))
    (hfaithful : ∀ catalog ∈ catalogs, catalog.2.Faithful catalog.1)
    (hcase : ∀ catalog ∈ catalogs, catalog.2.IgnoresCase) (dir : MediaDirectory)
    (hmode : dir.mode = .tvShow) (tree : FileTree) (refresh refreshAlone : Bool) :
    (organize ⟨[MemoryStore.tier], sourcesOf catalogs⟩ tree dir refresh (fun _ => pure ()) {}).1 =
      (dir.scan tree).map (·.map fun path =>
        (identify ⟨[MemoryStore.tier], sourcesOf catalogs⟩ dir refreshAlone path {}).1) := by
  -- searches of episode files share a name in the store only if they lead to the same
  have hkeys (a b : Query) (ha : a.IsForShow) (hb : b.IsForShow) (h : a.key = b.key) :
      trueSearch catalogs dir.sources a = trueSearch catalogs dir.sources b := by
    obtain ⟨hterm, hyear, hmode, hpart⟩ := ha.of_key_eq hb h
    exact trueSearch_congr hcase hterm hyear hmode hpart
  have hrecords : ∀ tier ∈ [MemoryStore.tier], tier.Truthful catalogs
      (MemoryStore.Knows catalogs dir.sources Query.IsForShow) := by
    simpa using MemoryStore.Knows.tier_truthful
  have hsearches : ∀ tier ∈ [MemoryStore.tier], tier.TruthfulSearches catalogs dir.sources
      Query.IsForShow (MemoryStore.Knows catalogs dir.sources Query.IsForShow) := by
    simpa using MemoryStore.Knows.tier_truthfulSearches hkeys
  -- the run over all files and the runs on single files are alike, file by file
  have hfiles (path : Path) := (alike_identify hfaithful hrecords hrecords hsearches hsearches hmode
    refresh refreshAlone path).keeps MemoryStore.Knows.empty
  exact (keeps_organize hfiles tree {} .empty).1

/-- The catalog of one show where it can be searched for; one search fails. -/
def searchable : Source.Answers :=
  { oneSeason with
    searchMedia := fun query =>
      let term := Text.lowercase query.term.toList
      if term = "lost".toList then
        .ok (some { id := "7", sourceId := "tvmaze", mode := .tvShow })
      else if term = "gone".toList then .error (.request "no route")
      else .ok none }

theorem searchable_faithful : searchable.Faithful "tvmaze" :=
  ⟨oneSeason_faithful.getShow, oneSeason_faithful.getSeason, oneSeason_faithful.getFilm⟩

theorem searchable_ignoresCase : searchable.IgnoresCase := by
  intro a b hterm _ _ _
  simp only [searchable, hterm]

/-- Files of one show, spelled in several ways, between them a search that fails and an episode that
does not exist; later files meet what earlier ones left in the store. -/
theorem organize_eq_map_identify_oneShow :
    let dir : MediaDirectory :=
      { root := ⟨['/', 't', 'v']⟩, mode := .tvShow
        pattern := ⟨"%n %s %e.%x", [.token .showName, .literal [' '], .token .season,
          .literal [' '], .token .episode, .literal ['.'], .token .extension]⟩
        sources := ["tvmaze"], extensions := ["mkv"], stripTokens := [], ignorePatterns := []
        pruneEmptyDirs := false }
    let names := ["LOST 1 2.mkv", "Lost 1 4.mkv", "gone 1 1.mkv", "lost 1 1.mkv"]
    let tree : FileTree :=
      { entries := ([['t', 'v']], .directory) ::
          names.map fun name => ([['t', 'v'], name.toList], .file .empty 0) }
    let resolver : Resolver (StateM MemoryStore) :=
      ⟨[MemoryStore.tier], sourcesOf [("tvmaze", searchable)]⟩
    (∀ catalog ∈ [("tvmaze", searchable)], catalog.2.Faithful catalog.1) ∧
    (∀ catalog ∈ [("tvmaze", searchable)], catalog.2.IgnoresCase) ∧
    dir.mode = .tvShow ∧
    (organize resolver tree dir false (fun _ => pure ()) {}).1 =
      (dir.scan tree).map (·.map fun path => (identify resolver dir true path {}).1) := by
  intro dir names tree resolver
  have hfaithful : ∀ catalog ∈ [("tvmaze", searchable)], catalog.2.Faithful catalog.1 := by
    simpa using searchable_faithful
  have hcase : ∀ catalog ∈ [("tvmaze", searchable)], catalog.2.IgnoresCase := by
    simpa using searchable_ignoresCase
  exact ⟨hfaithful, hcase, rfl, organize_eq_map_identify _ hfaithful hcase dir rfl tree false true⟩

end MediaShelf
