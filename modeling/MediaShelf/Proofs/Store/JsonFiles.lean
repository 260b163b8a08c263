import MediaShelf.Proofs.Effects
import MediaShelf.Proofs.Store.Memory
import MediaShelf.Proofs.Store.RecordFolder
import MediaShelf.Proofs.Store.StoredName

/-!
# The store on disk mirrors the one in memory

As long as ids are made of small ASCII letters, digits and hyphens, each folder of the store on disk
holds what the map of the same records holds in memory: files are never shared, and replacing a
season removes exactly its own episodes.

## Main definitions

* `RecordFolder.Holds` — a folder loads what a map gives
* `JsonStore.below`, `JsonStore.expiring` — the folders below a directory
* `JsonStore.Refines` — every folder holds the map of its records

## Main results

* `JsonStore.eq_of_make` — what is opened
* `JsonStore.refines_make` — folders opened in an empty directory mirror an empty memory
* `JsonStore.Refines.reopen` — opening folders again changes nothing
* `JsonStore.Refines.putSeason`, `JsonStore.Refines.putEpisode` — writes keep the mirror
-/

namespace MediaShelf

open FileTree (ChangesIn)

namespace RecordFolder

variable {α κ : Type} [DecidableEq κ] {folder : RecordFolder α} {place other : Location}
  {disk next : Disk} {identifier : κ → String} {valid : κ → Prop} {map : Assoc κ α}

/-- For every valid key the folder loads what the map has. -/
structure Holds (folder : RecordFolder α) (place : Location) (identifier : κ → String)
    (valid : κ → Prop) (disk : Disk) (map : Assoc κ α) : Prop where
  ttl : folder.ttl = none
  isOpen : folder.OpenAt place disk.tree
  load : ∀ key, valid key → folder.load disk (identifier key) = .ok (map.lookup key)

namespace Holds

theorem elsewhere (h : folder.Holds place identifier valid disk map) (hne : place ≠ other)
    (hchange : ChangesIn other disk.tree next.tree) :
    folder.Holds place identifier valid next map where
  ttl := h.ttl
  isOpen := h.isOpen.elsewhere hne hchange
  load key hkey := (h.isOpen.load_elsewhere h.ttl hne hchange _).trans (h.load key hkey)

/-- What a folder holds depends on the tree alone. -/
theorem of_tree_eq (h : folder.Holds place identifier valid disk map)
    (htree : next.tree = disk.tree) :
    folder.Holds place identifier valid next map := by
  have hopen : folder.OpenAt place next.tree := htree ▸ h.isOpen
  refine ⟨h.ttl, hopen, fun key hkey => ?_⟩
  rw [load_congr h.isOpen hopen h.ttl (by rw [htree])]
  exact h.load key hkey

/-- Storing a record is putting it into the map, if no other valid key shares its file. -/
theorem store (h : folder.Holds place identifier valid disk map) {key : κ} {value : α}
    (hown : ∀ other, valid other →
      storedName (identifier other).toList = storedName (identifier key).toList → other = key)
    (hreads : folder.codec.ReadsBack value)
    (hstored : (folder.store (identifier key) value disk).1 = .ok ()) :
    ChangesIn place disk.tree (folder.store (identifier key) value disk).2.tree ∧
      folder.Holds place identifier valid (folder.store (identifier key) value disk).2
        (Assoc.insert map key value) := by
  obtain ⟨hchange, hopen, hload⟩ := load_store h.isOpen h.ttl hreads hstored
  refine ⟨hchange, h.ttl, hopen, fun other hother => ?_⟩
  rw [hload, Assoc.lookup_insert]
  by_cases heq : other = key
  · simp [heq]
  · rw [if_neg heq, if_neg, h.load other hother]
    exact fun hsame => heq (hown other hother (List.append_cancel_right hsame))

/-- Removing by a start is dropping the valid keys whose files have it. -/
theorem removePrefixed (h : folder.Holds place identifier valid disk map) {start : String}
    {count : Nat} (hremoved : (folder.removePrefixed start disk).1 = .ok count)
    {left : Assoc κ α} (hleft : ∀ key, valid key → left.lookup key =
      if storedName start.toList <+: fileName (identifier key) then none else map.lookup key) :
    ChangesIn place disk.tree (folder.removePrefixed start disk).2.tree ∧
      folder.Holds place identifier valid (folder.removePrefixed start disk).2 left := by
  obtain ⟨hchange, hopen, hload⟩ := load_removePrefixed h.isOpen h.ttl hremoved
  refine ⟨hchange, h.ttl, hopen, fun key hkey => ?_⟩
  rw [hload, hleft key hkey, h.load key hkey]
  split <;> rfl

end Holds

end RecordFolder

namespace JsonStore

open RecordFolder (Holds)

variable {base : Path} {place : Location} {disk : Disk} {memory : MemoryStore} {α : Type}

/-- The folder with the name below a directory, without a time to live. -/
def folderBelow (base : Path) (name : String) (codec : Codec α) : RecordFolder α :=
  ⟨base.push (storedName name.toList), none, codec⟩

/-- The folders below a directory, without a time to live. -/
def below (base : Path) : JsonStore where
  shows := folderBelow base "shows" Show.codec
  seasons := folderBelow base "seasons" Season.codec
  episodes := folderBelow base "episodes" Episode.codec
  films := folderBelow base "films" Film.codec
  searches := folderBelow base "searches" SearchResult.codec

/-- The folders below a directory, with a time to live or without. -/
def expiring (base : Path) (ttl : Option Nat) : JsonStore where
  shows := { folderBelow base "shows" Show.codec with ttl }
  seasons := { folderBelow base "seasons" Season.codec with ttl }
  episodes := { folderBelow base "episodes" Episode.codec with ttl }
  films := { folderBelow base "films" Film.codec with ttl }
  searches := { folderBelow base "searches" SearchResult.codec with ttl }

/-- The names of the folders. -/
def folderNames : List String := ["shows", "seasons", "episodes", "films", "searches"]

/-- The place of the folder with the name. -/
def folderPlace (place : Location) (name : String) : Location := place ++ [storedName name.toList]

/-- Every folder below the directory holds the map of the same records. -/
structure Refines (base : Path) (place : Location) (disk : Disk) (memory : MemoryStore) :
    Prop where
  locate : disk.tree.locate base = .ok place
  shows : (below base).shows.Holds (folderPlace place "shows") CatalogKey.identifier
    CatalogKey.Portable disk memory.shows
  seasons : (below base).seasons.Holds (folderPlace place "seasons") SeasonKey.identifier
    SeasonKey.Portable disk memory.seasons
  episodes : (below base).episodes.Holds (folderPlace place "episodes") EpisodeKey.identifier
    (·.season.Portable) disk memory.episodes
  films : (below base).films.Holds (folderPlace place "films") CatalogKey.identifier
    CatalogKey.Portable disk memory.films
  searches : (below base).searches.Holds (folderPlace place "searches") id
    (fun key => ∃ query : Query, query.Portable ∧ query.key = key) disk memory.searches

theorem folderPlace_ne {name other : String}
    (h : storedName name.toList ≠ storedName other.toList) :
    folderPlace place name ≠ folderPlace place other := by
  simpa [folderPlace] using h

/-! ### Writes -/

namespace Refines

theorem putShow (h : Refines base place disk memory) {record : Show}
    (hkey : record.key.Portable) (hreads : Show.codec.ReadsBack record)
    (hstored : ((below base).shows.store record.key.identifier record disk).1 = .ok ()) :
    Refines base place ((below base).shows.store record.key.identifier record disk).2
      (memory.putShow record) := by
  obtain ⟨hchange, hshows⟩ := h.shows.store
    (fun other hother hsame => storedName_catalog hother hkey hsame) hreads hstored
  exact {
    locate := hchange.keeps.locate h.locate
    shows := hshows
    seasons := h.seasons.elsewhere (folderPlace_ne (by decide)) hchange
    episodes := h.episodes.elsewhere (folderPlace_ne (by decide)) hchange
    films := h.films.elsewhere (folderPlace_ne (by decide)) hchange
    searches := h.searches.elsewhere (folderPlace_ne (by decide)) hchange }

theorem putFilm (h : Refines base place disk memory) {film : Film}
    (hkey : film.key.Portable) (hreads : Film.codec.ReadsBack film)
    (hstored : ((below base).films.store film.key.identifier film disk).1 = .ok ()) :
    Refines base place ((below base).films.store film.key.identifier film disk).2
      (memory.putFilm film) := by
  obtain ⟨hchange, hfilms⟩ := h.films.store
    (fun other hother hsame => storedName_catalog hother hkey hsame) hreads hstored
  exact {
    locate := hchange.keeps.locate h.locate
    shows := h.shows.elsewhere (folderPlace_ne (by decide)) hchange
    seasons := h.seasons.elsewhere (folderPlace_ne (by decide)) hchange
    episodes := h.episodes.elsewhere (folderPlace_ne (by decide)) hchange
    films := hfilms
    searches := h.searches.elsewhere (folderPlace_ne (by decide)) hchange }

theorem putSearch (h : Refines base place disk memory) {query : Query} {result : SearchResult}
    (hquery : query.Portable) (hreads : SearchResult.codec.ReadsBack result)
    (hstored : ((below base).searches.store query.key result disk).1 = .ok ()) :
    Refines base place ((below base).searches.store query.key result disk).2
      (memory.putSearch query result) := by
  have hown : ∀ other : String, (∃ asked : Query, asked.Portable ∧ asked.key = other) →
      storedName (id other).toList = storedName (id query.key).toList → other = query.key := by
    rintro _ ⟨asked, hasked, rfl⟩ hsame
    simp only [id, storedName_queryKey hasked, storedName_queryKey hquery] at hsame
    exact String.toList_inj.mp hsame
  obtain ⟨hchange, hsearches⟩ := h.searches.store hown hreads hstored
  exact {
    locate := hchange.keeps.locate h.locate
    shows := h.shows.elsewhere (folderPlace_ne (by decide)) hchange
    seasons := h.seasons.elsewhere (folderPlace_ne (by decide)) hchange
    episodes := h.episodes.elsewhere (folderPlace_ne (by decide)) hchange
    films := h.films.elsewhere (folderPlace_ne (by decide)) hchange
    searches := hsearches }

/-- One folder of episodes stands for another as long as the others did not change. -/
theorem withEpisodes (h : Refines base place disk memory) {next : Disk}
    {episodes : Assoc EpisodeKey Episode}
    (hchange : ChangesIn (folderPlace place "episodes") disk.tree next.tree)
    (hepisodes : (below base).episodes.Holds (folderPlace place "episodes") EpisodeKey.identifier
      (·.season.Portable) next episodes) :
    Refines base place next { memory with episodes } where
  locate := hchange.keeps.locate h.locate
  shows := h.shows.elsewhere (folderPlace_ne (by decide)) hchange
  seasons := h.seasons.elsewhere (folderPlace_ne (by decide)) hchange
  episodes := hepisodes
  films := h.films.elsewhere (folderPlace_ne (by decide)) hchange
  searches := h.searches.elsewhere (folderPlace_ne (by decide)) hchange

theorem putEpisodeAt_cons (store : JsonStore) (episode : Episode) (key : EpisodeKey)
    (keys : List EpisodeKey) (disk : Disk) :
    store.putEpisodeAt episode (key :: keys) disk =
      match store.episodes.store key.identifier episode disk with
      | (.ok (), next) => store.putEpisodeAt episode keys next
      | (.error e, next) => (.error e, next) := by
  simp only [putEpisodeAt, Bind.bind, StateT.bind]
  rcases store.episodes.store key.identifier episode disk with ⟨_ | ⟨⟩, _⟩ <;> rfl

/-- An episode is kept under its keys one after the other. -/
theorem putEpisodeAt (h : Refines base place disk memory) {episode : Episode}
    {keys : List EpisodeKey} (hkeys : ∀ key ∈ keys, key.season.Portable)
    (hreads : Episode.codec.ReadsBack episode)
    (hstored : ((below base).putEpisodeAt episode keys disk).1 = .ok ()) :
    Refines base place ((below base).putEpisodeAt episode keys disk).2
      { memory with
        episodes := keys.foldl (fun map key => Assoc.insert map key episode) memory.episodes } := by
  induction keys generalizing disk memory with
  | nil => exact h
  | cons key keys ih =>
    rw [putEpisodeAt_cons] at hstored ⊢
    have hkey := hkeys key List.mem_cons_self
    have hstep := fun hfirst => h.episodes.store
      (fun other hother hsame => storedName_episode hother hkey hsame) hreads hfirst
    generalize (below base).episodes.store key.identifier episode disk = first at hstored hstep ⊢
    obtain ⟨_ | ⟨⟩, next⟩ := first
    · cases hstored
    · -- the map is folded from the left, as the files are written
      obtain ⟨hchange, hepisodes⟩ := hstep rfl
      exact ih (h.withEpisodes hchange hepisodes)
        (fun other hother => hkeys other (List.mem_cons_of_mem _ hother)) hstored

theorem putEpisode (h : Refines base place disk memory) {episode : Episode}
    (hkey : episode.seasonKey.Portable) (hreads : Episode.codec.ReadsBack episode)
    (hstored : ((below base).putEpisodeAt episode episode.keys disk).1 = .ok ()) :
    Refines base place ((below base).putEpisodeAt episode episode.keys disk).2
      (memory.putEpisode episode) := by
  refine h.putEpisodeAt (fun key hmem => ?_) hreads hstored
  obtain ⟨number, -, rfl⟩ := List.mem_map.mp hmem
  exact hkey

/-- A season that was put was put in three steps, none of which failed. -/
theorem putSeason_ok {store : JsonStore} {season : Season}
    (h : (store.putSeason season disk).1 = .ok ()) :
    ∃ episodes specials mid late,
      store.episodes.removePrefixed (season.key.episodeStart false) disk = (.ok episodes, mid) ∧
      store.episodes.removePrefixed (season.key.episodeStart true) mid = (.ok specials, late) ∧
      store.seasons.store season.key.identifier season late =
        (.ok (), (store.putSeason season disk).2) := by
  unfold JsonStore.putSeason at h ⊢
  obtain ⟨episodes, mid, hfirst, hrest⟩ := run_bind_ok h
  rw [hrest] at h ⊢
  obtain ⟨specials, late, hsecond, hlast⟩ := run_bind_ok h
  rw [hlast] at h ⊢
  exact ⟨episodes, specials, mid, late, hfirst, hsecond, Prod.ext h rfl⟩

/-- The episodes of one kind of a season go, and those of no other season. -/
theorem removeEpisodes (h : Refines base place disk memory) {season : SeasonKey}
    (hseason : season.Portable) (special : Bool) {count : Nat}
    (hremoved :
      ((below base).episodes.removePrefixed (season.episodeStart special) disk).1 = .ok count) :
    Refines base place ((below base).episodes.removePrefixed (season.episodeStart special) disk).2
      { memory with
        episodes := Assoc.keep memory.episodes fun key =>
          ¬(key.season = season ∧ key.special = special) } := by
  have hleft : ∀ key : EpisodeKey, key.season.Portable →
      (Assoc.keep memory.episodes fun key =>
          ¬(key.season = season ∧ key.special = special)).lookup key =
        if storedName (season.episodeStart special).toList <+:
          RecordFolder.fileName key.identifier then none
        else memory.episodes.lookup key := by
    intro key hkey
    have hiff : storedName (season.episodeStart special).toList <+:
        RecordFolder.fileName key.identifier ↔ key.season = season ∧ key.special = special :=
      episodeStart_isPrefix_iff hseason special hkey
    rw [Assoc.lookup_keep fun key : EpisodeKey =>
      decide ¬(key.season = season ∧ key.special = special)]
    by_cases hown : key.season = season ∧ key.special = special
    · rw [if_neg (by simp [hown]), if_pos (hiff.mpr hown)]
    · rw [if_pos (decide_eq_true hown), if_neg fun hstart => hown (hiff.mp hstart)]
  obtain ⟨hchange, hepisodes⟩ := h.episodes.removePrefixed hremoved hleft
  exact h.withEpisodes hchange hepisodes

/-- A season replaces the one kept under its key, and its episodes go. -/
theorem putSeason (h : Refines base place disk memory) {season : Season}
    (hkey : season.key.Portable) (hreads : Season.codec.ReadsBack season)
    (hstored : ((below base).putSeason season disk).1 = .ok ()) :
    Refines base place ((below base).putSeason season disk).2 (memory.putSeason season) := by
  obtain ⟨episodes, specials, mid, late, hfirst, hsecond, hlast⟩ := putSeason_ok hstored
  have hmid := h.removeEpisodes hkey false (congrArg Prod.fst hfirst)
  rw [hfirst] at hmid
  have hlate := hmid.removeEpisodes hkey true (congrArg Prod.fst hsecond)
  rw [hsecond] at hlate
  obtain ⟨hchange, hseasons⟩ := hlate.seasons.store
    (fun other hother hsame => storedName_season hother hkey hsame) hreads
    (congrArg Prod.fst hlast)
  rw [hlast] at hchange hseasons
  -- both kinds of entries together are all episodes of the season
  have hepisodes : Assoc.keep
      (Assoc.keep memory.episodes fun key => ¬(key.season = season.key ∧ key.special = false))
      (fun key => ¬(key.season = season.key ∧ key.special = true)) =
        Assoc.keep memory.episodes (·.season ≠ season.key) := by
    simp only [Assoc.keep, List.filter_filter]
    refine List.filter_congr fun pair _ => ?_
    cases pair.1.special <;> simp
  have hrest := hlate.episodes.elsewhere (folderPlace_ne (by decide)) hchange
  rw [hepisodes] at hrest
  exact {
    locate := hchange.keeps.locate hlate.locate
    shows := hlate.shows.elsewhere (folderPlace_ne (by decide)) hchange
    seasons := hseasons
    episodes := hrest
    films := hlate.films.elsewhere (folderPlace_ne (by decide)) hchange
    searches := hlate.searches.elsewhere (folderPlace_ne (by decide)) hchange }

end Refines

/-! ### Opening -/

/-- A store that was opened was opened folder by folder. -/
theorem make_ok {ttl : Option Nat} {store : JsonStore} (h : (make base ttl disk).1 = .ok store) :
    ∃ d₁ d₂ d₃ d₄,
      RecordFolder.make base "shows" ttl Show.codec disk = (.ok store.shows, d₁) ∧
      RecordFolder.make base "seasons" ttl Season.codec d₁ = (.ok store.seasons, d₂) ∧
      RecordFolder.make base "episodes" ttl Episode.codec d₂ = (.ok store.episodes, d₃) ∧
      RecordFolder.make base "films" ttl Film.codec d₃ = (.ok store.films, d₄) ∧
      RecordFolder.make base "searches" ttl SearchResult.codec d₄ =
        (.ok store.searches, (make base ttl disk).2) := by
  unfold make at h ⊢
  obtain ⟨shows, d₁, h₁, hrest⟩ := run_bind_ok h
  rw [hrest] at h ⊢
  obtain ⟨seasons, d₂, h₂, hrest⟩ := run_bind_ok h
  rw [hrest] at h ⊢
  obtain ⟨episodes, d₃, h₃, hrest⟩ := run_bind_ok h
  rw [hrest] at h ⊢
  obtain ⟨films, d₄, h₄, hrest⟩ := run_bind_ok h
  rw [hrest] at h ⊢
  obtain ⟨searches, d₅, h₅, hrest⟩ := run_bind_ok h
  rw [hrest] at h ⊢
  cases h
  exact ⟨d₁, d₂, d₃, d₄, h₁, h₂, h₃, h₄, h₅⟩

/-- A store that was opened has the folders below its directory, whatever was there before. -/
theorem eq_of_make {ttl : Option Nat} {store : JsonStore} (h : (make base ttl disk).1 = .ok store) :
    store = expiring base ttl := by
  obtain ⟨d₁, d₂, d₃, d₄, h₁, h₂, h₃, h₄, h₅⟩ := make_ok h
  obtain ⟨shows, seasons, episodes, films, searches⟩ := store
  obtain rfl := RecordFolder.eq_of_make (congrArg Prod.fst h₁)
  obtain rfl := RecordFolder.eq_of_make (congrArg Prod.fst h₂)
  obtain rfl := RecordFolder.eq_of_make (congrArg Prod.fst h₃)
  obtain rfl := RecordFolder.eq_of_make (congrArg Prod.fst h₄)
  obtain rfl := RecordFolder.eq_of_make (congrArg Prod.fst h₅)
  rfl

/-- What holds while folders are opened in an empty directory: those with the names are there, and
nothing is in them. -/
structure Prepared (base : Path) (place : Location) (names : List String) (tree : FileTree) :
    Prop where
  formed : tree.WellFormed
  locate : tree.locate base = .ok place
  directory : tree.get? place = some .directory
  made : ∀ name ∈ names, tree.get? (folderPlace place name) = some .directory
  hollow : ∀ name inner, tree.get? (place ++ [name, inner]) = none

/-- An empty directory is ready for folders. -/
theorem prepared_of_children (hformed : disk.tree.WellFormed)
    (hempty : disk.tree.children base = .ok []) : ∃ place, Prepared base place [] disk.tree := by
  obtain ⟨place, hlocate, hget, hnames⟩ := FileTree.children_eq_ok.mp hempty
  refine ⟨place, hformed, hlocate, hget, by simp, fun name inner => ?_⟩
  rw [← Option.not_isSome_iff_eq_none]
  intro hsome
  -- what is within a folder of the directory would make the folder one of its children
  obtain ⟨entry, hinner⟩ := Option.isSome_iff_exists.mp hsome
  have hsplit : place ++ [name, inner] = (place ++ [name]) ++ [inner] := by simp
  have hname := hformed.above (hsplit ▸ hinner)
  have hmem := FileTree.mem_childNames.mpr (Option.isSome_of_eq_some hname)
  rw [hnames] at hmem
  cases hmem

/-- Opening a folder in a prepared directory adds it to those that are there. -/
theorem Prepared.make {names : List String} (h : Prepared base place names disk.tree)
    {name : String} (hname : storedName name.toList ≠ []) {ttl : Option Nat} {codec : Codec α}
    {opened : RecordFolder α} {next : Disk}
    (hmade : RecordFolder.make base name ttl codec disk = (.ok opened, next)) :
    Prepared base place (name :: names) next.tree := by
  obtain ⟨-, htree⟩ := RecordFolder.tree_make h.locate h.directory hname (congrArg Prod.fst hmade)
  rw [hmade] at htree
  -- either the folder was there, or it is new
  rcases htree with ⟨hthere, htree⟩ | ⟨hnone, htree⟩
  · have hmade : ∀ other ∈ name :: names,
        disk.tree.get? (folderPlace place other) = some .directory := by
      intro other hother
      rcases List.mem_cons.mp hother with rfl | hother
      · exact hthere
      · exact h.made other hother
    rw [htree]
    exact ⟨h.formed, h.locate, h.directory, hmade, h.hollow⟩
  · have hadds : FileTree.AddsDirectories disk.tree next.tree := by
      rw [htree]
      exact .put hnone
    refine ⟨?_, hadds.keepsDirectories.locate h.locate, hadds.kept h.directory,
      fun other hother => ?_, fun other inner => ?_⟩
    · rw [htree]
      exact h.formed.put h.directory fun _ => rfl
    · rcases List.mem_cons.mp hother with rfl | hother
      · rw [htree]
        exact (FileTree.get?_put (by simp)).trans (if_pos rfl)
      · exact hadds.kept (h.made other hother)
    · rw [htree, FileTree.get?_put (by simp), if_neg]
      · exact h.hollow other inner
      · intro heq
        simpa using congrArg List.length heq

/-- A folder that was opened in a prepared directory holds nothing. -/
theorem Prepared.holds {names : List String} (h : Prepared base place names disk.tree)
    {name : String} (hmem : name ∈ names) (hname : storedName name.toList ≠ [])
    (hsize : FileTree.nameSize (storedName name.toList) ≤ FileTree.nameLimit)
    (codec : Codec α) {κ : Type} [DecidableEq κ] (identifier : κ → String) (valid : κ → Prop) :
    (folderBelow base name codec).Holds (folderPlace place name) identifier valid disk [] := by
  have hfile := RecordFolder.isFileName_storedName hname
  have hopen : (folderBelow base name codec).OpenAt (folderPlace place name) disk.tree := by
    refine ⟨h.formed, ?_, h.made name hmem, fun {inner entry} hentry => ?_⟩
    · have hpush := FileTree.locate_push h.locate h.directory hfile.isName hfile.no_null
      rwa [if_neg (Nat.not_lt.mpr hsize)] at hpush
    · have hhollow := h.hollow (storedName name.toList) inner
      rw [folderPlace, List.append_assoc, List.singleton_append, hhollow] at hentry
      cases hentry
  refine ⟨rfl, hopen, fun key _ => ?_⟩
  have hhollow := h.hollow (storedName name.toList) (RecordFolder.fileName (identifier key))
  rw [RecordFolder.load_eq hopen rfl, folderPlace, List.append_assoc, List.singleton_append,
    hhollow]
  split <;> rfl

/-- A store that was opened in an empty directory has all its folders there, with nothing in
them. -/
theorem prepared_make {ttl : Option Nat} {store : JsonStore} (hformed : disk.tree.WellFormed)
    (hempty : disk.tree.children base = .ok [])
    (hopened : (make base ttl disk).1 = .ok store) :
    store = expiring base ttl ∧
      ∃ place, Prepared base place folderNames.reverse (make base ttl disk).2.tree := by
  obtain ⟨place, hprepared⟩ := prepared_of_children hformed hempty
  -- the folders are opened one after the other, and each leaves those before it empty
  obtain ⟨d₁, d₂, d₃, d₄, h₁, h₂, h₃, h₄, h₅⟩ := make_ok hopened
  replace hprepared := hprepared.make (by decide) h₁
  replace hprepared := hprepared.make (by decide) h₂
  replace hprepared := hprepared.make (by decide) h₃
  replace hprepared := hprepared.make (by decide) h₄
  replace hprepared := hprepared.make (by decide) h₅
  exact ⟨eq_of_make hopened, place, hprepared⟩

/-- Folders that were opened in an empty directory mirror an empty memory. -/
theorem refines_make {store : JsonStore} (hformed : disk.tree.WellFormed)
    (hempty : disk.tree.children base = .ok [])
    (hopened : (make base none disk).1 = .ok store) :
    store = below base ∧ ∃ place, Refines base place (make base none disk).2 {} := by
  obtain ⟨hstore, place, hprepared⟩ := prepared_make hformed hempty hopened
  exact ⟨hstore, place, {
    locate := hprepared.locate
    shows := hprepared.holds (by decide) (by decide) (by decide) _ _ _
    seasons := hprepared.holds (by decide) (by decide) (by decide) _ _ _
    episodes := hprepared.holds (by decide) (by decide) (by decide) _ _ _
    films := hprepared.holds (by decide) (by decide) (by decide) _ _ _
    searches := hprepared.holds (by decide) (by decide) (by decide) _ _ _ }⟩

/-- Opening a folder that is there changes no file. -/
theorem folder_reopen {tree : FileTree} (hlocate : tree.locate base = .ok place)
    (hplace : tree.get? place = some .directory) {name : String}
    (hthere : tree.get? (folderPlace place name) = some .directory)
    (hname : storedName name.toList ≠ []) {codec : Codec α} {opened : RecordFolder α}
    {next : Disk} (htree : disk.tree = tree)
    (hmade : RecordFolder.make base name none codec disk = (.ok opened, next)) :
    next.tree = tree := by
  subst htree
  obtain ⟨-, htree⟩ := RecordFolder.tree_make hlocate hplace hname (congrArg Prod.fst hmade)
  rw [hmade] at htree
  obtain ⟨-, htree⟩ | ⟨hnone, -⟩ := htree
  · exact htree
  · rw [folderPlace, hnone] at hthere
    cases hthere

/-- Opening the folders again changes nothing. -/
theorem Refines.reopen (h : Refines base place disk memory) {store : JsonStore}
    (hopened : (make base none disk).1 = .ok store) :
    store = below base ∧ Refines base place (make base none disk).2 memory := by
  have hplace : disk.tree.get? place = some .directory :=
    h.shows.isOpen.formed.above h.shows.isOpen.directory
  obtain ⟨d₁, d₂, d₃, d₄, h₁, h₂, h₃, h₄, h₅⟩ := make_ok hopened
  have htree := folder_reopen h.locate hplace h.shows.isOpen.directory (by decide) rfl h₁
  replace htree := folder_reopen h.locate hplace h.seasons.isOpen.directory (by decide) htree h₂
  replace htree := folder_reopen h.locate hplace h.episodes.isOpen.directory (by decide) htree h₃
  replace htree := folder_reopen h.locate hplace h.films.isOpen.directory (by decide) htree h₄
  replace htree := folder_reopen h.locate hplace h.searches.isOpen.directory (by decide) htree h₅
  exact ⟨eq_of_make hopened, {
    locate := by rw [htree, h.locate]
    shows := h.shows.of_tree_eq htree
    seasons := h.seasons.of_tree_eq htree
    episodes := h.episodes.of_tree_eq htree
    films := h.films.of_tree_eq htree
    searches := h.searches.of_tree_eq htree }⟩

end JsonStore

end MediaShelf
