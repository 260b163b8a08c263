import MediaShelf.Proofs.FileTree.Listing
import MediaShelf.Proofs.FileTree.Loss
import MediaShelf.Proofs.Json.Truncated
import MediaShelf.Proofs.Store.JsonFiles
import MediaShelf.Proofs.Store.ReadBack

/-!
# Seasons that could not be replaced

A season is replaced in steps: the episodes kept by themselves go first, one file after the other,
and its own file is written last. When one of the steps fails, the earlier ones stay done. Nothing
but episodes of that season can be missing then, and nothing of the new season is ever found, also
when the last write was broken off.

## Main definitions

* `SeasonKey.SharesFile` — seasons with these keys are kept in the same file
* `EpisodeKey.GoesWith` — the file of the episode goes when the season is replaced
* `JsonStore.FailedReplacement` — what there is before and after a replacement that failed

## Main results

* `RecordFolder.load_brokenOff` — a record is not loaded from a part of its file
* `RecordFolder.losesFiles_removePrefixed` — a removal takes away files and does nothing else
* `JsonStore.losesFiles_putSeason` — a replacement that failed took files of episodes away
* `JsonStore.cacheSeason_failed` — what is found after a replacement that failed
-/

namespace MediaShelf

open FileTree (LeftByWrite LosesFiles SameDirectories)

/-- Seasons with these keys are kept in the same file. -/
def SeasonKey.SharesFile (key other : SeasonKey) : Prop :=
  storedName key.identifier.toList = storedName other.identifier.toList

/-- Whether the file of an episode goes when the season is replaced. -/
def EpisodeKey.GoesWith (key : EpisodeKey) (season : SeasonKey) : Prop :=
  ∃ special, storedName (season.episodeStart special).toList <+:
    RecordFolder.fileName key.identifier

namespace RecordFolder

variable {α : Type} {folder : RecordFolder α} {disk next : Disk} {place goal : Location}
  {identifier start : String}

/-! ### Loading -/

/-- At one time the same is loaded, unless the entry that the path leads to has changed. -/
theorem load_eq_or_changed (h : SameDirectories disk.tree next.tree) (hnow : next.now = disk.now)
    (folder : RecordFolder α) (identifier : String) :
    folder.load next identifier = folder.load disk identifier ∨
      ∃ place, disk.tree.locate (folder.entryPath identifier) = .ok place ∧
        next.tree.get? place ≠ disk.tree.get? place := by
  cases hlocate : disk.tree.locate (folder.entryPath identifier) with
  | error e =>
    cases hnext : next.tree.locate (folder.entryPath identifier) with
    | error cause => exact .inl (by rw [load_of_locate_error hlocate, load_of_locate_error hnext])
    | ok place =>
      rw [h.locate_iff.mp hnext] at hlocate
      cases hlocate
  | ok place =>
    by_cases hsame : next.tree.get? place = disk.tree.get? place
    · refine .inl ?_
      rw [load_of_locate hlocate, load_of_locate (h.locate_iff.mpr hlocate), hsame, hnow]
    · exact .inr ⟨place, rfl, hsame⟩

/-- A record is not loaded from a part of its file. -/
theorem load_brokenOff {value : α} {size modified : Nat}
    (hobject : ∃ members, folder.codec.toJson value = .object members)
    (hunbroken : Json.isUnbroken (folder.codec.toJson value))
    (hsize : size < (Json.write (folder.codec.toJson value)).toUTF8.size)
    (hlocate : disk.tree.locate (folder.entryPath identifier) = .ok place)
    (hfile : disk.tree.get? place = some (.file
      ((Json.write (folder.codec.toJson value)).toUTF8.extract 0 size) modified)) :
    ∀ found, folder.load disk identifier ≠ .ok (some found) := by
  intro found
  rw [load_of_locate hlocate, hfile, Option.filter_some]
  split
  · obtain ⟨members, hmembers⟩ := hobject
    rw [hmembers] at hunbroken hsize ⊢
    unfold decode
    dsimp only
    split
    · simp
    · rename_i part hpart
      simp [Json.read?_of_extract hunbroken hsize hpart]
  · simp [decode]

/-! ### Storing -/

/-- A record that could not be stored left everything as it was. -/
theorem tree_of_store_error {value : α} {cause : CacheError}
    (h : (folder.store identifier value disk).1 = .error cause) :
    (folder.store identifier value disk).2.tree = disk.tree := by
  rw [store_eq] at h ⊢
  cases hwritten : (Disk.perform (.write (folder.entryPath identifier)
      (Json.write (folder.codec.toJson value)).toUTF8) disk).1 with
  | error e => exact FileTree.tree_of_perform_error (by simp) (by simp) hwritten
  | ok done =>
    rw [hwritten] at h
    cases h

/-! ### Removing -/

/-- The places of the files in a folder whose names start with the stored form of `start`. -/
def MayLose (folder : RecordFolder α) (tree : FileTree) (start : String) (goal : Location) : Prop :=
  ∃ place name, tree.locate folder.path = .ok place ∧ storedName start.toList <+: name ∧
    goal = place ++ [name]

/-- Files that are removed by their names are lost, up to the first that cannot be. -/
theorem losesFiles_removeAll {names : List (List Char)} (hnames : ∀ name ∈ names, Path.IsName name)
    (hlocate : disk.tree.locate folder.path = .ok place) :
    LosesFiles (fun goal => ∃ name ∈ names, goal = place ++ [name]) disk.tree
      (removeAll (names.map folder.path.push) disk).2.tree := by
  induction names generalizing disk with
  | nil => exact .refl _
  | cons first names ih =>
    rw [List.map_cons, removeAll_cons]
    cases hperform : Disk.perform (.removeFile (folder.path.push first)) disk with
    | mk answer next =>
      cases answer with
      | error cause =>
        have htree := FileTree.tree_of_perform_error (by simp) (by simp)
          (congrArg Prod.fst hperform)
        rw [hperform] at htree
        exact htree ▸ .refl _
      | ok done =>
        obtain ⟨found, content, modified, hfound, hfile, htree⟩ :=
          FileTree.perform_removeFile (congrArg Prod.fst hperform)
        rw [hperform] at htree
        obtain ⟨parent, hparent, -, rfl⟩ := FileTree.of_locate_push
          (hnames first List.mem_cons_self) (FileTree.locate_eq_ok.mp hlocate).1 hfound
        obtain rfl : parent = place := Except.ok.inj (hparent.symm.trans hlocate)
        have hfirst : LosesFiles (fun goal => ∃ name ∈ first :: names, goal = parent ++ [name])
            disk.tree next.tree :=
          htree ▸ .remove hfile ⟨first, List.mem_cons_self, rfl⟩
        -- the other names are looked for in the same directory
        have hrest := ih (fun name hname => hnames name (List.mem_cons_of_mem _ hname))
          (hfirst.sameDirectories.locate_iff.mpr hlocate)
        refine hfirst.trans (hrest.mono ?_)
        rintro goal ⟨name, hname, rfl⟩
        exact ⟨name, List.mem_cons_of_mem _ hname, rfl⟩

/-- A removal by a start loses files with that start and does nothing else, whether or not it comes
to its end. -/
theorem losesFiles_removePrefixed
    (hnamed : ∀ place name, (disk.tree.get? (place ++ [name])).isSome → Path.IsName name)
    (folder : RecordFolder α) (start : String) :
    LosesFiles (folder.MayLose disk.tree start) disk.tree
      (folder.removePrefixed start disk).2.tree := by
  rw [removePrefixed_eq]
  cases hchildren : disk.tree.children folder.path with
  | error cause => exact .refl _
  | ok names =>
    obtain ⟨place, hlocate, -, rfl⟩ := FileTree.children_eq_ok.mp hchildren
    refine (losesFiles_removeAll (fun name hname => ?_) hlocate).mono ?_
    · exact hnamed place name (FileTree.mem_childNames.mp (mem_doomed.mp hname).1)
    · rintro goal ⟨name, hname, rfl⟩
      exact ⟨place, name, hlocate, (mem_doomed.mp hname).2.1, rfl⟩

end RecordFolder

namespace JsonStore

open RecordFolder (fileName)

variable {base : Path} {ttl : Option Nat} {store : JsonStore} {season : Season}
  {disk before after : Disk} {tree mid : FileTree} {place folder : Location} {identifier : String}
  {cause : CacheError}

/-! ### Places -/

/-- The file of a record lies in the folder of its kind. -/
theorem of_locate_entryPath {α : Type} {name : String} {codec : Codec α}
    (hname : storedName name.toList ≠ [])
    (h : tree.locate ({ folderBelow base name codec with ttl }.entryPath identifier) = .ok place) :
    ∃ folder, tree.locate (base.push (storedName name.toList)) = .ok folder ∧
      place = folder ++ [fileName identifier] := by
  obtain ⟨folder, hfolder, -, hplace⟩ := FileTree.of_locate_push
    (RecordFolder.isFileName_fileName identifier).isName
    (Path.text_push_ne_nil (RecordFolder.isFileName_storedName hname).isName) h
  exact ⟨folder, hfolder, hplace⟩

/-- Seasons and episodes are not kept in the same place. -/
theorem seasonPlace_ne
    (hseason : tree.locate ((expiring base ttl).seasons.entryPath identifier) = .ok place)
    (hepisodes : tree.locate (expiring base ttl).episodes.path = .ok folder) (name : List Char) :
    place ≠ folder ++ [name] := by
  obtain ⟨shelf, hshelf, rfl⟩ := of_locate_entryPath (by decide) hseason
  have hne := FileTree.siblings_ne (RecordFolder.isFileName_storedName (by decide)).isName
    (RecordFolder.isFileName_storedName (by decide)).isName (by decide) hshelf hepisodes
  intro heq
  exact hne (List.append_inj' heq rfl).1

/-! ### Replacing a season -/

/-- A replacement that failed got as far as one of the two removals. -/
theorem tree_of_putSeason_error (h : (store.putSeason season disk).1 = .error cause) :
    let first := store.episodes.removePrefixed (season.key.episodeStart false) disk
    let second := store.episodes.removePrefixed (season.key.episodeStart true) first.2
    (store.putSeason season disk).2.tree = first.2.tree ∨
      (store.putSeason season disk).2.tree = second.2.tree := by
  unfold JsonStore.putSeason at h ⊢
  simp only [run_bind] at h ⊢
  simp only [ExceptT.run, ExceptT.mk] at h ⊢
  generalize store.episodes.removePrefixed (season.key.episodeStart false) disk = first at h ⊢
  obtain ⟨_ | count, mid⟩ := first
  · exact .inl rfl
  · refine .inr ?_
    dsimp only at h ⊢
    generalize store.episodes.removePrefixed (season.key.episodeStart true) mid = second at h ⊢
    obtain ⟨_ | count, late⟩ := second
    · rfl
    · exact RecordFolder.tree_of_store_error h

/-- The places of the files that the replacement of a season takes away. -/
def IsDoomed (store : JsonStore) (season : Season) (tree : FileTree) (goal : Location) : Prop :=
  ∃ special, store.episodes.MayLose tree (season.key.episodeStart special) goal

/-- A replacement that failed lost files of episodes, and nothing else happened. -/
theorem losesFiles_putSeason (hsound : disk.tree.Sound)
    (h : (store.putSeason season disk).1 = .error cause) :
    LosesFiles (store.IsDoomed season disk.tree) disk.tree
      (store.putSeason season disk).2.tree := by
  have hnamed (place : Location) (name : List Char)
      (hentry : (disk.tree.get? (place ++ [name])).isSome) : Path.IsName name :=
    (hsound.isEntryName hentry (List.mem_append_right place List.mem_cons_self)).toIsName
  have hremoved (special : Bool) (mid : Disk)
      (hmid : LosesFiles (store.IsDoomed season disk.tree) disk.tree mid.tree) :
      LosesFiles (store.IsDoomed season disk.tree) disk.tree
        (store.episodes.removePrefixed (season.key.episodeStart special) mid).2.tree := by
    refine hmid.trans ((RecordFolder.losesFiles_removePrefixed ?_ store.episodes
      (season.key.episodeStart special)).mono ?_)
    · intro place name hentry
      exact hnamed place name (hmid.isSome hentry)
    · -- the folder is still where it was
      rintro goal ⟨place, name, hlocate, hstart, rfl⟩
      exact ⟨special, place, name, hmid.sameDirectories.locate_iff.mp hlocate, hstart, rfl⟩
  have hfirst := hremoved false disk (.refl _)
  obtain htree | htree := tree_of_putSeason_error h
  · rw [htree]
    exact hfirst
  · rw [htree]
    exact hremoved true _ hfirst

/-! ### Looking up -/

/-- An episode that is not kept by itself is looked up in its season. -/
theorem findEpisode_of_none {key : EpisodeKey}
    (h : store.episodes.load disk key.identifier = .ok none) :
    store.findEpisode disk key = (store.seasons.load disk key.season.identifier).map fun kept =>
      kept.bind (·.numbered? key.special key.number) := by
  unfold JsonStore.findEpisode
  rw [h]
  cases store.seasons.load disk key.season.identifier <;> rfl

/-- The season of an episode matters only if the episode is not kept by itself. -/
theorem findEpisode_congr {key : EpisodeKey}
    (hepisode : store.episodes.load after key.identifier =
      store.episodes.load before key.identifier)
    (hseason : store.episodes.load before key.identifier = .ok none →
      store.seasons.load after key.season.identifier =
        store.seasons.load before key.season.identifier) :
    store.findEpisode after key = store.findEpisode before key := by
  simp only [JsonStore.findEpisode, Bind.bind, Except.bind]
  rw [hepisode]
  split
  · rfl
  · split
    · rfl
    · rename_i hnone
      rw [hseason hnone]

theorem run_getSeason (store : JsonStore) (key : SeasonKey) (disk : Disk) :
    (store.tier.getSeason key disk).1 =
      (store.seasons.load disk key.identifier).mapError .cache := by
  simp only [tier, reading]

theorem run_getEpisode (store : JsonStore) (key : EpisodeKey) (disk : Disk) :
    (store.tier.getEpisode key disk).1 = (store.findEpisode disk key).mapError .cache := by
  simp only [tier, reading]

theorem run_cacheSeason (store : JsonStore) (season : Season) (disk : Disk) :
    store.tier.cacheSeason season disk =
      ((store.putSeason season disk).1.mapError .cache, (store.putSeason season disk).2) := by
  simp only [tier, writing, Bind.bind, StateT.bind]
  rcases store.putSeason season disk with ⟨answer, next⟩
  rfl

theorem map_mapError {ε δ α β : Type} {answer : Except ε α} {f : ε → δ} {g : α → β} :
    (answer.map g).mapError f = (answer.mapError f).map g := by
  cases answer <;> rfl

/-! ### After a failure -/

/-- What was before a replacement that failed, what the removals left, and what is there later: the
last write may have been broken off. -/
structure FailedReplacement (store : JsonStore) (season : Season) (before : Disk) (mid : FileTree)
    (after : Disk) : Prop where
  now : after.now = before.now
  lost : LosesFiles (store.IsDoomed season before.tree) before.tree mid
  left : LeftByWrite mid (store.seasons.entryPath season.key.identifier)
    (Json.write (Season.codec.toJson season)).toUTF8 after.tree

namespace FailedReplacement

theorem sameDirectories (h : FailedReplacement store season before mid after) :
    SameDirectories before.tree after.tree :=
  h.lost.sameDirectories.trans h.left.sameDirectories

/-- Whatever is at a place was there before, or a file was taken away from it, or it is what the
last write left. -/
theorem entry (h : FailedReplacement store season before mid after) (place : Location) :
    after.tree.get? place = before.tree.get? place ∨
      store.IsDoomed season before.tree place ∧ after.tree.get? place = none ∨
      after.tree ≠ mid ∧
        before.tree.locate (store.seasons.entryPath season.key.identifier) = .ok place ∧
        ∃ size modified, size < (Json.write (Season.codec.toJson season)).toUTF8.size ∧
          after.tree.get? place = some (.file
            ((Json.write (Season.codec.toJson season)).toUTF8.extract 0 size) modified) := by
  have hremoved : mid.get? place = before.tree.get? place ∨
      store.IsDoomed season before.tree place ∧ mid.get? place = none :=
    (h.lost.entry place).imp_right fun hgone => ⟨hgone.1, hgone.2.2⟩
  by_cases htree : after.tree = mid
  · rw [htree]
    exact hremoved.imp_right .inl
  · have hleft := h.left
    generalize after.tree = later at hleft htree ⊢
    cases hleft with
    | untouched => exact absurd rfl htree
    | @brokenOff found size modified hlocate hfree hsize =>
      by_cases hplace : place = found
      · refine .inr (.inr ⟨htree, ?_, size, modified, hsize, ?_⟩)
        · rw [hplace]
          exact h.lost.sameDirectories.locate_iff.mp hlocate
        · rw [FileTree.get?_put (FileTree.ne_nil_of_not_directory hfree), if_pos hplace]
      · rw [FileTree.get?_put (FileTree.ne_nil_of_not_directory hfree), if_neg hplace]
        exact hremoved.imp_right .inl

/-- Seasons are found as before, but for those that share their file with the new one: if that file
was broken off, no season is found in it. -/
theorem load_season (h : FailedReplacement (expiring base ttl) season before mid after)
    (key : SeasonKey) :
    (expiring base ttl).seasons.load after key.identifier =
        (expiring base ttl).seasons.load before key.identifier ∨
      after.tree ≠ mid ∧ key.SharesFile season.key ∧
        ∀ found, (expiring base ttl).seasons.load after key.identifier ≠ .ok (some found) := by
  obtain hsame | ⟨place, hlocate, hchanged⟩ := RecordFolder.load_eq_or_changed h.sameDirectories
    h.now (expiring base ttl).seasons key.identifier
  · exact .inl hsame
  · obtain hsame | ⟨⟨special, folder, name, hfolder, -, hgoal⟩, -⟩ |
      ⟨htree, hother, size, modified, hsize, hfile⟩ := h.entry place
    · exact absurd hsame hchanged
    · exact absurd hgoal (seasonPlace_ne hlocate hfolder name)
    · refine .inr ⟨htree, ?_, ?_⟩
      · -- two files of one place have one name
        obtain ⟨folder, -, hplace⟩ := of_locate_entryPath (by decide) hlocate
        obtain ⟨other, -, hotherPlace⟩ := of_locate_entryPath (by decide) hother
        have hnames := (List.append_inj' (hplace.symm.trans hotherPlace) rfl).2
        exact List.append_cancel_right (List.singleton_inj.mp hnames)
      · exact RecordFolder.load_brokenOff ⟨_, rfl⟩ (Season.lossless.unbroken season) hsize
          (h.sameDirectories.locate_iff.mpr hlocate) hfile

/-- Episodes kept by themselves are found as before, or they were among those to be removed and are
missing. -/
theorem load_episode (h : FailedReplacement (expiring base ttl) season before mid after)
    (key : EpisodeKey) :
    (expiring base ttl).episodes.load after key.identifier =
        (expiring base ttl).episodes.load before key.identifier ∨
      (∃ special,
          storedName (season.key.episodeStart special).toList <+: fileName key.identifier) ∧
        (expiring base ttl).episodes.load after key.identifier = .ok none := by
  obtain hsame | ⟨place, hlocate, hchanged⟩ := RecordFolder.load_eq_or_changed h.sameDirectories
    h.now (expiring base ttl).episodes key.identifier
  · exact .inl hsame
  · obtain ⟨folder, hfolder, rfl⟩ := of_locate_entryPath (by decide) hlocate
    obtain hsame | ⟨⟨special, other, name, -, hstart, hgoal⟩, hnone⟩ | ⟨-, hseason, -⟩ :=
      h.entry (folder ++ [fileName key.identifier])
    · exact absurd hsame hchanged
    · have hname := (List.append_inj' hgoal rfl).2
      refine .inr ⟨⟨special, ?_⟩, ?_⟩
      · rw [List.singleton_inj.mp hname]
        exact hstart
      · rw [RecordFolder.load_of_locate (h.sameDirectories.locate_iff.mpr hlocate), hnone]
        rfl
    · exact absurd rfl (seasonPlace_ne hseason hfolder _)

/-- An episode is found as before, or as its season has it if its own file went or the file of the
season was broken off. -/
theorem findEpisode (h : FailedReplacement (expiring base ttl) season before mid after)
    (key : EpisodeKey) :
    (expiring base ttl).findEpisode after key = (expiring base ttl).findEpisode before key ∨
      (key.GoesWith season.key ∨ after.tree ≠ mid ∧ key.season.SharesFile season.key) ∧
        (expiring base ttl).findEpisode after key =
          ((expiring base ttl).seasons.load after key.season.identifier).map fun kept =>
            kept.bind (·.numbered? key.special key.number) := by
  obtain hepisode | ⟨hgoes, hnone⟩ := h.load_episode key
  · obtain hseason | ⟨htree, hshares, -⟩ := h.load_season key.season
    · exact .inl (findEpisode_congr hepisode fun _ => hseason)
    · by_cases hnone : (expiring base ttl).episodes.load before key.identifier = .ok none
      · exact .inr ⟨.inr ⟨htree, hshares⟩, findEpisode_of_none (hepisode.trans hnone)⟩
      · exact .inl (findEpisode_congr hepisode fun h => absurd h hnone)
  · exact .inr ⟨.inl hgoes, findEpisode_of_none hnone⟩

end FailedReplacement

/-- After a season could not be replaced, at any time and whatever the last write left of its file,
every season is found as it would have been before. Only where that file was broken off no season is
found in it. Every episode is found as it would have been before, or its file was to go with the
season, or that of its season was broken off; then the look-up falls back to what is found of its
season. -/
theorem cacheSeason_failed (base : Path) (ttl : Option Nat) (season : Season) (disk : Disk)
    (error : StoreError) (left : FileTree) (now : Nat) (hsound : disk.tree.Sound)
    (hfailed : ((expiring base ttl).tier.cacheSeason season disk).1 = .error error)
    (hleft : LeftByWrite ((expiring base ttl).tier.cacheSeason season disk).2.tree
      ((expiring base ttl).seasons.entryPath season.key.identifier)
      (Json.write (Season.codec.toJson season)).toUTF8 left) :
    let tier := (expiring base ttl).tier
    let failed := (tier.cacheSeason season disk).2
    let before : Disk := { disk with now }
    let after : Disk := { failed with tree := left, now }
    (∀ key, (tier.getSeason key after).1 = (tier.getSeason key before).1 ∨
      left ≠ failed.tree ∧ key.SharesFile season.key ∧
        ∀ found, (tier.getSeason key after).1 ≠ .ok (some found)) ∧
    ∀ key, (tier.getEpisode key after).1 = (tier.getEpisode key before).1 ∨
      (key.GoesWith season.key ∨ left ≠ failed.tree ∧ key.season.SharesFile season.key) ∧
        (tier.getEpisode key after).1 = (tier.getSeason key.season after).1.map fun kept =>
          kept.bind (·.numbered? key.special key.number) := by
  intro tier failed before after
  have hrun := run_cacheSeason (expiring base ttl) season disk
  obtain ⟨cause, hstopped⟩ : ∃ cause,
      ((expiring base ttl).putSeason season disk).1 = .error cause := by
    rw [hrun] at hfailed
    cases hput : ((expiring base ttl).putSeason season disk).1 with
    | error cause => exact ⟨cause, rfl⟩
    | ok done =>
      rw [hput] at hfailed
      cases hfailed
  have htree : failed.tree = ((expiring base ttl).putSeason season disk).2.tree :=
    congrArg (·.2.tree) hrun
  have h : FailedReplacement (expiring base ttl) season before failed.tree after :=
    ⟨rfl, htree ▸ losesFiles_putSeason hsound hstopped, hleft⟩
  constructor
  · intro key
    simp only [tier, run_getSeason]
    obtain hsame | ⟨hleft, hshares, hbroken⟩ := h.load_season key
    · exact .inl (congrArg _ hsame)
    · refine .inr ⟨hleft, hshares, fun found hfound => ?_⟩
      exact hbroken found (RecordFolder.mapError_eq_ok.mp hfound)
  · intro key
    simp only [tier, run_getSeason, run_getEpisode]
    obtain hsame | ⟨hwhy, hfound⟩ := h.findEpisode key
    · exact .inl (congrArg _ hsame)
    · refine .inr ⟨hwhy, ?_⟩
      rw [hfound, map_mapError]

/-- A full disk: the first episode is gone when the new season is written, and its file ends after
twenty bytes. -/
theorem cacheSeason_failed_full :
    let season : Season :=
      { sourceId := "tvmaze", showId := "82", seasonNumber := 1, url := none, episodes := [],
        specials := [] }
    let base : Path := ⟨['/', 'c']⟩
    let tier := (expiring base (some 60)).tier
    let disk : Disk :=
      { tree := { entries := [([['c']], .directory), ([['c'], "seasons".toList], .directory),
          ([['c'], "episodes".toList], .directory),
          ([['c'], "episodes".toList, "tvmaze_82_1_episode_1.json".toList], .file ⟨#[]⟩ 0)] }
        refusal := fun time => if time = 1 then some { cause := .storageFull } else none }
    let failed := (tier.cacheSeason season disk).2
    let place : Location := [['c'], "seasons".toList, "tvmaze_82_1.json".toList]
    let content := (Json.write (Season.codec.toJson season)).toUTF8
    let left := failed.tree.put place (.file (content.extract 0 20) 1)
    let after : Disk := { failed with tree := left, now := 5 }
    disk.tree.Sound ∧
      (tier.cacheSeason season disk).1 = .error (.cache (.writeFailed
        ((expiring base (some 60)).seasons.entryPath season.key.identifier) .storageFull)) ∧
      LeftByWrite failed.tree
        ((expiring base (some 60)).seasons.entryPath season.key.identifier) content left ∧
      ∀ found, (tier.getSeason season.key after).1 ≠ .ok (some found) := by
  intro season base tier disk failed place content left after
  have hsound : disk.tree.Sound := by
    refine FileTree.sound_of_entries ?_ rfl (by decide) (by decide)
    simp [disk, FileTree.get?, List.lookup_cons]
  have hfailed : (tier.cacheSeason season disk).1 = .error (.cache (.writeFailed
      ((expiring base (some 60)).seasons.entryPath season.key.identifier) .storageFull)) := by
    decide +kernel
  have hfree : failed.tree.get? place = none :=
    Option.isNone_iff_eq_none.mp (by decide +kernel)
  have hleft : LeftByWrite failed.tree
      ((expiring base (some 60)).seasons.entryPath season.key.identifier) content left :=
    .brokenOff 1 (by decide +kernel) (by simp [hfree]) (by decide +kernel)
  have hbefore : (tier.getSeason season.key { disk with now := 5 }).1 = .ok none := by
    decide +kernel
  refine ⟨hsound, hfailed, hleft, fun found => ?_⟩
  clear_value disk season
  obtain ⟨hseasons, -⟩ :=
    cacheSeason_failed base (some 60) season disk _ left 5 hsound hfailed hleft
  obtain hsame | ⟨-, -, hbroken⟩ := hseasons season.key
  · rw [show (tier.getSeason season.key after).1 = _ from hsame, hbefore]
    simp
  · exact hbroken found

/-- Where the folder of the seasons is missing no season is written, but the episode that was kept
by itself is gone. -/
theorem getEpisode_ne_after_failure :
    let pilot : Episode :=
      { sourceId := "tvmaze", showId := "82", seasonNumber := 1, episodeNumbers := [1],
        title := "Pilot", summary := "" }
    let season : Season :=
      { sourceId := "tvmaze", showId := "82", seasonNumber := 1, url := none, episodes := [],
        specials := [] }
    let tier := (expiring ⟨['/', 'c']⟩ none).tier
    let disk : Disk :=
      { tree := { entries := [([['c']], .directory), ([['c'], "episodes".toList], .directory),
          ([['c'], "episodes".toList, "tvmaze_82_1_episode_1.json".toList],
            .file (Json.write (Episode.codec.toJson pilot)).toUTF8 0)] } }
    let failed := tier.cacheSeason season disk
    failed.1 = .error (.cache (.writeFailed
        ((expiring ⟨['/', 'c']⟩ none).seasons.entryPath season.key.identifier) .notFound)) ∧
      (tier.getEpisode ⟨season.key, false, 1⟩ disk).1 = .ok (some pilot) ∧
      (tier.getEpisode ⟨season.key, false, 1⟩ failed.2).1 = .ok none := by
  intro pilot season tier disk failed
  refine ⟨by decide +kernel, ?_, by decide +kernel⟩
  let place : Location := [['c'], "episodes".toList, "tvmaze_82_1_episode_1.json".toList]
  have hlocate : disk.tree.locate ((expiring ⟨['/', 'c']⟩ none).episodes.entryPath
      (EpisodeKey.identifier ⟨season.key, false, 1⟩)) = .ok place := by
    decide +kernel
  have hfile : disk.tree.get? place =
      some (.file (Json.write (Episode.codec.toJson pilot)).toUTF8 0) := by
    simp [disk, place, FileTree.get?, List.lookup_cons]
  have hload : (expiring ⟨['/', 'c']⟩ none).episodes.load disk
      (EpisodeKey.identifier ⟨season.key, false, 1⟩) = .ok (some pilot) := by
    have hreads : (expiring ⟨['/', 'c']⟩ none).episodes.codec.ReadsBack pilot :=
      Episode.lossless.readsBack pilot
    exact RecordFolder.load_file hreads hlocate hfile (by rfl)
  rw [run_getEpisode, JsonStore.findEpisode, hload]
  rfl

end JsonStore

end MediaShelf
