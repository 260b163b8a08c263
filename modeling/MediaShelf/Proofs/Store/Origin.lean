import MediaShelf.Proofs.Record.Codec
import MediaShelf.Proofs.Store.JsonFiles
import MediaShelf.Store.Call

/-!
# Where records of a store come from

Whatever calls a store has answered, and however many of them failed, what it gives was put into it
by one of them. In memory the record has the very key that was asked for. On disk its key shares a
file with that key, so the two agree if they are made of parts that file names keep; ids that
differ by case or by other characters are not told apart.

## Main definitions

* `Tier.Call.writes` — what a call puts into files
* `Tier.after` — a store after some calls
* `Tier.GivesKept` — what the store gives was put into it under a key like the one asked for
* `JsonStore.Written` — all files below a directory were written by some calls
* `CatalogKey.SharesFile` — records with these keys are kept in the same file

## Main results

* `JsonStore.Written.ask` — a call, also one that fails, leaves only files of this kind
* `JsonStore.Written.load` — what is loaded is what a call wrote
* `JsonStore.Written.getShow_of_sharesFile` — a show is given for all keys that share its file
* `givesKept_after` — both stores give only what was put into them
-/

namespace MediaShelf

open FileTree (ChangesIn)

namespace Tier

/-- What a call puts into files: the name of the folder, the identifier and the written form. -/
def Call.writes : Call → List (String × String × Json)
  | .cacheShow record => [("shows", record.key.identifier, Show.codec.toJson record)]
  | .cacheSeason season => [("seasons", season.key.identifier, Season.codec.toJson season)]
  | .cacheEpisode episode =>
    episode.keys.map fun key => ("episodes", key.identifier, Episode.codec.toJson episode)
  | .cacheFilm film => [("films", film.key.identifier, Film.codec.toJson film)]
  | .cacheSearch query result => [("searches", query.key, SearchResult.codec.toJson result)]
  | _ => []

theorem Call.writes_shows {call : Call} {identifier : String} {json : Json}
    (h : ("shows", identifier, json) ∈ call.writes) :
    ∃ record, call = .cacheShow record ∧ identifier = record.key.identifier ∧
      json = Show.codec.toJson record := by
  cases call with
  | cacheShow record => simpa [writes] using h
  | _ => simp [writes] at h

theorem Call.writes_films {call : Call} {identifier : String} {json : Json}
    (h : ("films", identifier, json) ∈ call.writes) :
    ∃ film, call = .cacheFilm film ∧ identifier = film.key.identifier ∧
      json = Film.codec.toJson film := by
  cases call with
  | cacheFilm film => simpa [writes] using h
  | _ => simp [writes] at h

/-- The call puts the content into the file with this name in the folder with that name. -/
def Call.Wrote (call : Call) (folder : String) (file : List Char) (content : ByteArray) : Prop :=
  ∃ identifier value, (folder, identifier, value) ∈ call.writes ∧
    file = RecordFolder.fileName identifier ∧ content = (Json.write value).toUTF8

end Tier

namespace JsonStore

open RecordFolder (IsFileName fileName isFileName_fileName)
open Tier (Call)

variable {base : Path} {place : Location} {calls : List Call} {call : Call} {disk : Disk}
  {tree : FileTree} {ttl : Option Nat} {α : Type} {folder : RecordFolder α}
  {name identifier : String}

/-- The folders below the directory are there, and everything in them was written by a call. -/
structure Written (base : Path) (place : Location) (calls : List Call) (tree : FileTree) :
    Prop where
  formed : tree.WellFormed
  locate : tree.locate base = .ok place
  made : ∀ name ∈ folderNames, tree.get? (folderPlace place name) = some .directory
  origin : ∀ {name file entry}, name ∈ folderNames →
    tree.get? (folderPlace place name ++ [file]) = some entry →
      ∃ call ∈ calls, ∃ content modified, call.Wrote name file content ∧
        entry = .file content modified

theorem folderPlace_injective {other : String} (hname : name ∈ folderNames)
    (hother : other ∈ folderNames) (h : folderPlace place name = folderPlace place other) :
    name = other := by
  have hstored : ∀ name ∈ folderNames, ∀ other ∈ folderNames,
      storedName name.toList = storedName other.toList → name = other := by decide
  exact hstored name hname other hother (by simpa [folderPlace] using h)

namespace Written

/-- Each of the folders is open for its records. -/
theorem openAt (h : Written base place calls tree) (hname : name ∈ folderNames)
    (hpath : folder.path = base.push (storedName name.toList)) :
    folder.OpenAt (folderPlace place name) tree := by
  have hstored : ∀ name ∈ folderNames, storedName name.toList ≠ [] ∧
      FileTree.nameSize (storedName name.toList) ≤ FileTree.nameLimit := by decide
  obtain ⟨hne, hsize⟩ := hstored name hname
  have hfile := RecordFolder.isFileName_storedName hne
  have hplace : tree.get? place = some .directory := h.formed.above (h.made name hname)
  refine ⟨h.formed, ?_, h.made name hname, fun {file entry} hentry => ?_⟩
  · have hpush := FileTree.locate_push h.locate hplace hfile.isName hfile.no_null
    rwa [if_neg (Nat.not_lt.mpr hsize), ← hpath] at hpush
  · obtain ⟨call, -, content, modified, ⟨identifier, value, -, rfl, -⟩, -⟩ := h.origin hname hentry
    exact isFileName_fileName identifier

/-- What is loaded was written by one of the calls into the file that is read. -/
theorem load (h : Written base place calls disk.tree) (name : String)
    (hname : name ∈ folderNames) (hpath : folder.path = base.push (storedName name.toList))
    {value : α} (hload : folder.load disk identifier = .ok (some value)) :
    ∃ call ∈ calls, ∃ other json, (name, other, json) ∈ call.writes ∧
      fileName other = fileName identifier ∧
      (Json.read? (Json.write json)).bind folder.codec.ofJson? = some value := by
  have hopen : RecordFolder.OpenAt { folder with ttl := none } (folderPlace place name) disk.tree :=
    h.openAt hname hpath
  -- what is loaded in time is the entry under the file name, decoded
  have hread := RecordFolder.load_of_some hload
  rw [RecordFolder.load_eq hopen rfl] at hread
  split at hread
  · cases hread
  · cases hentry : disk.tree.get? (folderPlace place name ++ [fileName identifier]) with
    | none =>
      rw [hentry] at hread
      cases hread
    | some entry =>
      obtain ⟨call, hcall, _, modified, ⟨other, json, hwrites, hfile, rfl⟩, rfl⟩ :=
        h.origin hname hentry
      refine ⟨call, hcall, other, json, hwrites, hfile.symm, ?_⟩
      rw [hentry] at hread
      simp only [RecordFolder.decode, RecordFolder.fromUTF8?_toUTF8] at hread
      split at hread
      · rename_i found hfound
        rw [← Option.some.inj (Except.ok.inj hread)]
        exact hfound
      · cases hread

/-! ### One change -/

/-- A record that a call keeps is written into its file or, if that fails, nowhere. -/
theorem store (h : Written base place calls disk.tree) (folder : RecordFolder α)
    (hname : name ∈ folderNames) (hpath : folder.path = base.push (storedName name.toList))
    (hcall : call ∈ calls) {record : α}
    (hwrites : (name, identifier, folder.codec.toJson record) ∈ call.writes) :
    Written base place calls (folder.store identifier record disk).2.tree := by
  have hopen := h.openAt hname hpath
  obtain htree | ⟨-, hfree, htree⟩ := hopen.tree_store identifier record
  · rw [htree]
    exact h
  · rw [htree]
    generalize hcontent : (Json.write (folder.codec.toJson record)).toUTF8 = content
    have hchange : ChangesIn (folderPlace place name) disk.tree (disk.tree.put
        (folderPlace place name ++ [fileName identifier]) (.file content disk.now)) :=
      ChangesIn.put h.formed hopen.directory hfree
    refine ⟨hchange.formed, hchange.keeps.locate h.locate,
      fun other hother => hchange.keeps.directory (h.made other hother),
      fun {other file entry} hother hentry => ?_⟩
    rw [FileTree.get?_put (by simp)] at hentry
    split at hentry
    · -- the file is the one that was written
      rename_i hsame
      obtain ⟨hfolder, hfile⟩ := List.append_inj' hsame rfl
      obtain rfl := folderPlace_injective hother hname hfolder
      exact ⟨call, hcall, content, disk.now,
        ⟨identifier, _, hwrites, List.singleton_inj.mp hfile, hcontent.symm⟩,
        (Option.some.inj hentry).symm⟩
    · exact h.origin hother hentry

/-- Taking a file away puts nothing anywhere. -/
theorem remove (h : Written base place calls tree) {found : Location} {content : ByteArray}
    {modified : Nat} (hfile : tree.get? found = some (.file content modified)) :
    Written base place calls (tree.remove found) := by
  -- a file is in some directory, since the root is none
  cases found using List.reverseRecOn with
  | nil => cases hfile
  | append_singleton folder file =>
    have hchange := ChangesIn.remove h.formed hfile
    refine ⟨hchange.formed, hchange.keeps.locate h.locate,
      fun other hother => hchange.keeps.directory (h.made other hother),
      fun {other file entry} hother hentry => ?_⟩
    rw [FileTree.get?_remove (by simp)] at hentry
    split at hentry
    · cases hentry
    · exact h.origin hother hentry

theorem removePrefixed (h : Written base place calls disk.tree) (start : String) :
    Written base place calls (folder.removePrefixed start disk).2.tree := by
  refine RecordFolder.removePrefixed_keeps (Written base place calls ·.tree) ?_ folder start h
  exact FileTree.perform_removeFile_keeps (Written base place calls) fun _ _ _ _ hkept =>
    hkept.remove

/-! ### Calls -/

theorem putSeason (h : Written base place calls disk.tree) {season : Season}
    (hcall : .cacheSeason season ∈ calls) :
    Written base place calls ((expiring base ttl).putSeason season disk).2.tree := by
  -- the files of episodes go in two steps, either of which may be the last
  let keeps (disk : Disk) := Written base place calls disk.tree
  refine run_bind_keeps keeps (h.removePrefixed _) fun _ _ hmid => ?_
  refine run_bind_keeps keeps (hmid.removePrefixed _) fun _ _ hlate => ?_
  exact hlate.store (expiring base ttl).seasons (by decide) rfl hcall List.mem_cons_self

theorem putEpisodeAt (h : Written base place calls disk.tree) {episode : Episode}
    (hcall : .cacheEpisode episode ∈ calls) {keys : List EpisodeKey}
    (hkeys : ∀ key ∈ keys, key ∈ episode.keys) :
    Written base place calls ((expiring base ttl).putEpisodeAt episode keys disk).2.tree := by
  induction keys generalizing disk with
  | nil => exact h
  | cons key keys ih =>
    have hwrites : ("episodes", key.identifier, Episode.codec.toJson episode) ∈
        Call.writes (.cacheEpisode episode) :=
      List.mem_map_of_mem (hkeys key List.mem_cons_self)
    have hnext := h.store (expiring base ttl).episodes (by decide) rfl hcall hwrites
    rw [Refines.putEpisodeAt_cons]
    -- the files written before a failure stay
    generalize (expiring base ttl).episodes.store key.identifier episode disk = first at hnext ⊢
    obtain ⟨_ | ⟨⟩, next⟩ := first
    · exact hnext
    · exact ih hnext fun other hother => hkeys other (List.mem_cons_of_mem _ hother)

/-- A call, also one that fails on the way, leaves only files that were written by calls. -/
theorem ask (h : Written base place calls disk.tree) (ttl : Option Nat) (hcall : call ∈ calls) :
    Written base place calls ((expiring base ttl).tier.ask call disk).2.tree := by
  cases call with
  | getShow | getSeason | getEpisode | getFilm | searchMedia => exact h
  | cacheShow record =>
    exact h.store (expiring base ttl).shows (by decide) rfl hcall List.mem_cons_self
  | cacheSeason season => exact h.putSeason hcall
  | cacheEpisode episode => exact h.putEpisodeAt hcall fun _ => id
  | cacheFilm film =>
    exact h.store (expiring base ttl).films (by decide) rfl hcall List.mem_cons_self
  | cacheSearch query result =>
    exact h.store (expiring base ttl).searches (by decide) rfl hcall List.mem_cons_self

end Written

/-- Nothing is in the folders of a store that was opened in an empty directory. -/
theorem written_make (calls : List Call) {store : JsonStore} (hformed : disk.tree.WellFormed)
    (hempty : disk.tree.children base = .ok [])
    (hopened : (make base ttl disk).1 = .ok store) :
    store = expiring base ttl ∧
      ∃ place, Written base place calls (make base ttl disk).2.tree := by
  obtain ⟨hstore, place, hprepared⟩ := prepared_make hformed hempty hopened
  refine ⟨hstore, place, hprepared.formed, hprepared.locate,
    fun name hname => hprepared.made name (List.mem_reverse.mpr hname),
    fun {name file entry} _ hentry => ?_⟩
  rw [folderPlace, List.append_assoc, List.singleton_append, hprepared.hollow] at hentry
  cases hentry

end JsonStore

/-! ### Runs -/

namespace Tier

variable {σ : Type}

/-- A store after some calls. -/
def after (tier : Tier (StateM σ)) (calls : List Call) (s : σ) : σ :=
  calls.foldl (fun s call => (tier.ask call s).2) s

/-- What every call keeps, holds after all of them. -/
theorem after_induction {tier : Tier (StateM σ)} {calls : List Call} {s : σ} (keeps : σ → Prop)
    (hstart : keeps s) (hstep : ∀ call ∈ calls, ∀ s, keeps s → keeps (tier.ask call s).2) :
    keeps (tier.after calls s) := by
  induction calls generalizing s with
  | nil => exact hstart
  | cons call calls ih =>
    exact ih (hstep call List.mem_cons_self s hstart)
      fun other hother => hstep other (List.mem_cons_of_mem _ hother)

/-- The shows and films that the store gives were put into it by the calls, and their keys are
`alike` to those asked for. -/
structure GivesKept (tier : Tier (StateM σ)) (calls : List Call)
    (alike : CatalogKey → CatalogKey → Prop) (s : σ) : Prop where
  shows : ∀ {key record}, (tier.getShow key s).1 = .ok (some record) →
    .cacheShow record ∈ calls ∧ alike record.key key
  films : ∀ {key film}, (tier.getFilm key s).1 = .ok (some film) →
    .cacheFilm film ∈ calls ∧ alike film.key key

theorem GivesKept.imp {tier : Tier (StateM σ)} {calls : List Call} {s : σ}
    {alike like : CatalogKey → CatalogKey → Prop} (h : tier.GivesKept calls alike s)
    (himp : ∀ {kept asked}, alike kept asked → like kept asked) :
    tier.GivesKept calls like s where
  shows hgiven := (h.shows hgiven).imp_right himp
  films hgiven := (h.films hgiven).imp_right himp

end Tier

/-- Records with these keys are kept in the same file. -/
def CatalogKey.SharesFile (key other : CatalogKey) : Prop :=
  storedName key.identifier.toList = storedName other.identifier.toList

instance (key other : CatalogKey) : Decidable (key.SharesFile other) :=
  inferInstanceAs (Decidable (_ = _))

/-- What is in files that calls wrote was put there by one of them. -/
theorem JsonStore.Written.givesKept {base : Path} {place : Location} {calls : List Tier.Call}
    {ttl : Option Nat} {disk : Disk} (h : Written base place calls disk.tree) :
    (expiring base ttl).tier.GivesKept calls CatalogKey.SharesFile disk where
  shows {key record} hgiven := by
    have hload : (expiring base ttl).shows.load disk key.identifier = .ok (some record) :=
      RecordFolder.mapError_eq_ok.mp hgiven
    obtain ⟨call, hcall, identifier, json, hwrites, hfile, hread⟩ :=
      h.load "shows" (by decide) rfl hload
    obtain ⟨written, rfl, rfl, rfl⟩ := Tier.Call.writes_shows hwrites
    obtain rfl : written = record :=
      Option.some.inj ((Show.lossless.readsBack written).symm.trans hread)
    exact ⟨hcall, List.append_cancel_right hfile⟩
  films {key film} hgiven := by
    have hload : (expiring base ttl).films.load disk key.identifier = .ok (some film) :=
      RecordFolder.mapError_eq_ok.mp hgiven
    obtain ⟨call, hcall, identifier, json, hwrites, hfile, hread⟩ :=
      h.load "films" (by decide) rfl hload
    obtain ⟨written, rfl, rfl, rfl⟩ := Tier.Call.writes_films hwrites
    obtain rfl : written = film :=
      Option.some.inj ((Film.lossless.readsBack written).symm.trans hread)
    exact ⟨hcall, List.append_cancel_right hfile⟩

/-- Without a time to live, a show that was kept is given for every key that shares its file. -/
theorem JsonStore.Written.getShow_of_sharesFile {base : Path} {place : Location}
    {calls : List Tier.Call} {disk : Disk} (h : Written base place calls disk.tree)
    {record : Show} {key : CatalogKey} (hfile : key.SharesFile record.key)
    (hstored : ((expiring base none).tier.cacheShow record disk).1 = .ok ()) :
    ((expiring base none).tier.getShow key
      ((expiring base none).tier.ask (.cacheShow record) disk).2).1 = .ok (some record) := by
  have hopen : (expiring base none).shows.OpenAt (folderPlace place "shows") disk.tree :=
    h.openAt (by decide) rfl
  obtain ⟨-, -, hload⟩ := RecordFolder.load_store hopen rfl (Show.lossless.readsBack record)
    (RecordFolder.mapError_eq_ok.mp hstored)
  have hloaded := (hload key.identifier).trans (if_pos (congrArg (· ++ recordSuffix) hfile))
  exact congrArg (fun answer => answer.mapError StoreError.cache) hloaded

/-- In memory a write is found under its own key alone. -/
theorem MemoryStore.givesKept_ask {calls : List Tier.Call} {call : Tier.Call}
    {store : MemoryStore} (h : tier.GivesKept calls (· = ·) store) (hcall : call ∈ calls) :
    tier.GivesKept calls (· = ·) (tier.ask call store).2 := by
  cases call with
  | cacheShow record =>
    refine ⟨fun {key found} hfound => ?_, h.films⟩
    have hlookup : (store.putShow record).shows.lookup key = some found := Except.ok.inj hfound
    rw [lookup_putShow] at hlookup
    split at hlookup
    · rename_i hkey
      rw [← Option.some.inj hlookup]
      exact ⟨hcall, hkey.symm⟩
    · exact h.shows (congrArg Except.ok hlookup)
  | cacheFilm film =>
    refine ⟨h.shows, fun {key found} hfound => ?_⟩
    have hlookup : (store.putFilm film).films.lookup key = some found := Except.ok.inj hfound
    rw [lookup_putFilm] at hlookup
    split at hlookup
    · rename_i hkey
      rw [← Option.some.inj hlookup]
      exact ⟨hcall, hkey.symm⟩
    · exact h.films (congrArg Except.ok hlookup)
  | _ => exact ⟨h.shows, h.films⟩

/-- After any calls, the store in memory gives for a key only a record with this key that one of
the calls put into it. A store on disk that was opened in an empty directory, with whatever time to
live and whatever failures, gives only a record that one of the calls put into it and whose key has
the same file; the keys are the same if they are made of parts that file names keep. -/
theorem givesKept_after (calls : List Tier.Call) :
    MemoryStore.tier.GivesKept calls (· = ·) (MemoryStore.tier.after calls {}) ∧
      ∀ {base : Path} {ttl : Option Nat} {disk : Disk} {store : JsonStore},
        disk.tree.WellFormed → disk.tree.children base = .ok [] →
        (JsonStore.make base ttl disk).1 = .ok store →
          store.tier.GivesKept calls
            (fun kept asked => kept.SharesFile asked ∧
              (kept.Portable → asked.Portable → kept = asked))
            (store.tier.after calls (JsonStore.make base ttl disk).2) := by
  constructor
  · refine Tier.after_induction _ ⟨fun hgiven => ?_, fun hgiven => ?_⟩
      fun call hcall store hstore => MemoryStore.givesKept_ask hstore hcall
    all_goals cases hgiven
  · intro base ttl disk store hformed hempty hopened
    obtain ⟨rfl, place, hwritten⟩ := JsonStore.written_make calls hformed hempty hopened
    have hafter : JsonStore.Written base place calls ((JsonStore.expiring base ttl).tier.after calls
        (JsonStore.make base ttl disk).2).tree :=
      Tier.after_induction (fun disk : Disk => JsonStore.Written base place calls disk.tree)
        hwritten fun call hcall disk hdisk => hdisk.ask ttl hcall
    exact hafter.givesKept.imp fun hfile =>
      ⟨hfile, fun hkept hasked => storedName_catalog hkept hasked hfile⟩

/-- A disk with an empty directory and nothing else. -/
def bareDisk : Disk := { tree := { entries := [([['c']], .directory)] } }

theorem bareDisk_wellFormed : bareDisk.tree.WellFormed := by
  refine FileTree.wellFormed_of_entries ?_ rfl
  simp [bareDisk, FileTree.get?]

theorem bareDisk_children : bareDisk.tree.children ⟨['/', 'c']⟩ = .ok [] := by decide

/-- The directory can be opened as a store. -/
theorem bareDisk_make :
    (JsonStore.make ⟨['/', 'c']⟩ none bareDisk).1 = .ok (JsonStore.expiring ⟨['/', 'c']⟩ none) := by
  have hopens : (JsonStore.make ⟨['/', 'c']⟩ none bareDisk).1.isOk := by decide +kernel
  cases hmade : (JsonStore.make ⟨['/', 'c']⟩ none bareDisk).1 with
  | error e => simp [hmade, Except.isOk, Except.toBool] at hopens
  | ok opened =>
    rw [JsonStore.eq_of_make hmade]

/-- A film and a show with the same ids stay apart, and the show is found again. -/
theorem givesKept_after_twins :
    let heat : Film := { sourceId := "tvmaze", filmId := "1", title := "Heat" }
    let heroes : Show := { sourceId := "tvmaze", showId := "1", name := "Heroes" }
    let calls : List Tier.Call := [.cacheFilm heat, .cacheShow heroes]
    let base : Path := ⟨['/', 'c']⟩
    let store := JsonStore.expiring base none
    let kept := store.tier.after calls (JsonStore.make base none bareDisk).2
    (store.tier.getShow ⟨"tvmaze", "1"⟩ kept).1 = .ok (some heroes) ∧
      store.tier.GivesKept calls
        (fun kept asked => kept.SharesFile asked ∧
          (kept.Portable → asked.Portable → kept = asked)) kept := by
  intro heat heroes calls base store kept
  obtain ⟨-, place, hwritten⟩ :=
    JsonStore.written_make calls bareDisk_wellFormed bareDisk_children bareDisk_make
  have hfilm := hwritten.ask none (List.mem_cons_self : Tier.Call.cacheFilm heat ∈ calls)
  constructor
  · exact hfilm.getShow_of_sharesFile (by decide +kernel) (by decide +kernel)
  · exact (givesKept_after calls).2 bareDisk_wellFormed bareDisk_children bareDisk_make

/-- A catalog whose name differs by case is given the show of the other one. -/
theorem getShow_ne_of_shared_file :
    let heroes : Show := { sourceId := "TVmaze", showId := "1", name := "Heroes" }
    let base : Path := ⟨['/', 'c']⟩
    let store := JsonStore.expiring base none
    let kept := store.tier.after [.cacheShow heroes] (JsonStore.make base none bareDisk).2
    (JsonStore.make base none bareDisk).1 = .ok store ∧
      (store.tier.getShow ⟨"tvmaze", "1"⟩ kept).1 = .ok (some heroes) ∧
      heroes.key ≠ ⟨"tvmaze", "1"⟩ := by
  intro heroes base store kept
  obtain ⟨-, place, hwritten⟩ :=
    JsonStore.written_make [] bareDisk_wellFormed bareDisk_children bareDisk_make
  refine ⟨bareDisk_make, ?_, by decide⟩
  exact hwritten.getShow_of_sharesFile (by decide +kernel) (by decide +kernel)

end MediaShelf
