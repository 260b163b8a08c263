import MediaShelf.Proofs.Store.JsonFiles
import MediaShelf.Proofs.Store.ReadBack
import MediaShelf.Workspace

/-!
# How long records are good

The hours of the settings are turned into seconds, which must fit into 64 bits. If they do, a record
that is good with some hours is good with more hours as well. From 5124095576030432 hours on they do
not, and the program breaks off before it looks for any record.

## Main definitions

* `JsonStore.folder` — the records of a kind
* `CacheSettings.store` — the store that settings ask for

## Main results

* `CacheSettings.ttl_eq` — the seconds of hours
* `CacheSettings.exists_ttl_of_open` — what is opened for settings
* `CacheSettings.load_of_more_hours` — more hours keep what fewer hours keep
* `CacheSettings.breakdown_of_hours` — hours at which the program breaks off
-/

namespace MediaShelf

/-- The folder of the records of a kind. -/
def JsonStore.folder (store : JsonStore) : (kind : RecordKind) → RecordFolder kind.Record
  | .tvShow => store.shows
  | .season => store.seasons
  | .episode => store.episodes
  | .film => store.films
  | .searchResult => store.searches

/-- Folders below one directory differ in their time to live alone. -/
theorem JsonStore.folder_expiring (base : Path) (ttl longer : Option Nat) (kind : RecordKind) :
    (JsonStore.expiring base longer).folder kind =
      { (JsonStore.expiring base ttl).folder kind with ttl := longer } := by
  cases kind <;> rfl

theorem JsonStore.ttl_folder_expiring (base : Path) (ttl : Option Nat) (kind : RecordKind) :
    ((JsonStore.expiring base ttl).folder kind).ttl = ttl := by
  cases kind <;> rfl

namespace CacheSettings

open RecordFolder (nanoseconds)

variable {settings shorter longer : CacheSettings} {hours more : UInt64} {home : Path} {disk : Disk}
  {opened : JsonStore}

/-! ### Seconds -/

/-- A product is exact, or there is none. -/
theorem product_eq (a b : UInt64) :
    product a b = if a.toNat * b.toNat < 18446744073709551616 then
      .ok (UInt64.ofNat (a.toNat * b.toNat)) else .error .productTooLarge := by
  have hsize : UInt64.size = 18446744073709551616 := rfl
  rw [product, hsize]
  split
  · rw [UInt64.ofNat_mul, UInt64.ofNat_toNat, UInt64.ofNat_toNat]
  · rfl

/-- Hours have their seconds if these fit into 64 bits. Then the minutes on the way fit as well. -/
theorem ttl_eq (h : settings.ttlHours = some hours) :
    settings.ttl = if 3600 * hours.toNat < 18446744073709551616 then
      .ok (some (3600 * hours.toNat)) else .error .productTooLarge := by
  have hsixty : (60 : UInt64).toNat = 60 := rfl
  simp only [ttl, h, product_eq, hsixty]
  have hseconds : hours.toNat * 60 * 60 = 3600 * hours.toNat := by omega
  by_cases hminutes : hours.toNat * 60 < 18446744073709551616
  · have hword : (UInt64.ofNat (hours.toNat * 60)).toNat = hours.toNat * 60 :=
      UInt64.toNat_ofNat_of_lt' hminutes
    simp only [hminutes, if_true, Bind.bind, Except.bind, hword, hseconds]
    by_cases hfits : 3600 * hours.toNat < 18446744073709551616
    · simp only [hfits, if_true, Pure.pure, Except.pure, UInt64.toNat_ofNat_of_lt' hfits]
    · simp only [hfits, if_false]
  · have hlarge : ¬3600 * hours.toNat < 18446744073709551616 := by omega
    simp only [hminutes, hlarge, if_false, Bind.bind, Except.bind]

/-- They are the seconds in full if and only if these fit. -/
theorem ttl_eq_ok_iff (h : settings.ttlHours = some hours) :
    settings.ttl = .ok (some (3600 * hours.toNat)) ↔
      3600 * hours.toNat < 18446744073709551616 := by
  rw [ttl_eq h]
  split <;> simp_all

/-- They fit if those of more hours do. -/
theorem ttl_eq_of_le (h : settings.ttlHours = some hours) (hle : hours ≤ more)
    (hfits : 3600 * more.toNat < 18446744073709551616) :
    settings.ttl = .ok (some (3600 * hours.toNat)) := by
  refine (ttl_eq_ok_iff h).mpr ?_
  calc 3600 * hours.toNat
      ≤ 3600 * more.toNat := Nat.mul_le_mul_left 3600 (UInt64.le_iff_toNat_le.mp hle)
    _ < 18446744073709551616 := hfits

/-- A time to live that there is comes from seconds that fit. -/
theorem lt_of_ttl_eq_ok (h : settings.ttlHours = some hours) {ttl : Option Nat}
    (hok : settings.ttl = .ok ttl) :
    ttl = some (3600 * hours.toNat) ∧ 3600 * hours.toNat < 18446744073709551616 := by
  rw [ttl_eq h] at hok
  split at hok
  · rename_i hfits
    exact ⟨(Except.ok.inj hok).symm, hfits⟩
  · cases hok

/-! ### Stores -/

/-- The store that the settings ask for, with a time to live. -/
def store (settings : CacheSettings) (home : Path) (ttl : Option Nat) : JsonStore :=
  .expiring (settings.dir.getD (Config.defaultCacheDir home)) ttl

/-- Settings that keep records get their store if there is a time to live and the directories can be
made. -/
theorem openDiskStore_eq (henabled : settings.enabled) (home : Path) (disk : Disk) :
    openDiskStore settings home disk =
      match settings.ttl with
      | .error breakdown => (.error breakdown, disk)
      | .ok ttl =>
        let made := JsonStore.make (settings.dir.getD (Config.defaultCacheDir home)) ttl disk
        (.ok (made.1.map fun _ => some (settings.store home ttl)), made.2) := by
  simp only [openDiskStore, if_pos henabled]
  cases settings.ttl with
  | error breakdown => rfl
  | ok ttl =>
    simp only [Bind.bind, StateT.bind]
    cases hmade : JsonStore.make (settings.dir.getD (Config.defaultCacheDir home)) ttl disk with
    | mk answer next =>
      cases answer with
      | error cause => rfl
      | ok made =>
        rw [JsonStore.eq_of_make (congrArg Prod.fst hmade)]
        rfl

/-- A store that was opened for settings is the one that they ask for, with their time to live. -/
theorem exists_ttl_of_open (h : (openDiskStore settings home disk).1 = .ok (.ok (some opened))) :
    ∃ ttl, settings.ttl = .ok ttl ∧ opened = settings.store home ttl := by
  by_cases henabled : settings.enabled
  · rw [openDiskStore_eq henabled] at h
    cases httl : settings.ttl with
    | error breakdown => simp [httl] at h
    | ok ttl =>
      rw [httl] at h
      dsimp only at h
      generalize
        JsonStore.make (settings.dir.getD (Config.defaultCacheDir home)) ttl disk = made at h
      obtain ⟨_ | made, next⟩ := made
      · cases h
      · exact ⟨ttl, rfl, (Option.some.inj (Except.ok.inj (Except.ok.inj h))).symm⟩
  · rw [openDiskStore, if_neg henabled] at h
    cases h

/-- Of two stores that were opened below one directory, the one with more hours gives every record
that the other one gives, at any age of the record. The seconds of the hours are counted in full if
they fit, and otherwise the program breaks off and leaves the disk as it was. -/
theorem load_of_more_hours (hshorter : shorter.ttlHours = some hours)
    (hlonger : longer.ttlHours = some more) (hdir : longer.dir = shorter.dir) (hle : hours ≤ more)
    (home : Path) :
    (longer.ttl = .ok (some (3600 * more.toNat)) ↔ 3600 * more.toNat < 18446744073709551616) ∧
      (3600 * more.toNat < 18446744073709551616 →
        shorter.ttl = .ok (some (3600 * hours.toNat))) ∧
      (¬3600 * more.toNat < 18446744073709551616 → longer.ttl = .error .productTooLarge ∧
        ∀ disk, longer.enabled → openDiskStore longer home disk = (.error .productTooLarge, disk)) ∧
      ∀ (first second : Disk) (short long : JsonStore),
        (openDiskStore shorter home first).1 = .ok (.ok (some short)) →
        (openDiskStore longer home second).1 = .ok (.ok (some long)) →
        ∀ (disk : Disk) (kind : RecordKind) (identifier : String) (value : kind.Record),
          (short.folder kind).load disk identifier = .ok (some value) →
          (long.folder kind).load disk identifier = .ok (some value) := by
  refine ⟨ttl_eq_ok_iff hlonger, ttl_eq_of_le hshorter hle, fun hlarge => ?_, ?_⟩
  · have httl : longer.ttl = .error .productTooLarge := by rw [ttl_eq hlonger, if_neg hlarge]
    refine ⟨httl, fun disk henabled => ?_⟩
    rw [openDiskStore_eq henabled, httl]
  · intro first second short long hshort hlong disk kind identifier value h
    -- both stores are below one directory, so their folders are the same but for the time
    obtain ⟨fewer, hfewer, rfl⟩ := exists_ttl_of_open hshort
    obtain ⟨seconds, hseconds, rfl⟩ := exists_ttl_of_open hlong
    obtain ⟨rfl, -⟩ := lt_of_ttl_eq_ok hshorter hfewer
    obtain ⟨rfl, -⟩ := lt_of_ttl_eq_ok hlonger hseconds
    rw [store, hdir, JsonStore.folder_expiring _ (some (3600 * hours.toNat))]
    refine RecordFolder.load_of_longer (fun seconds hmem => ?_) h
    obtain rfl := Option.some.inj hmem
    refine ⟨3600 * hours.toNat, JsonStore.ttl_folder_expiring _ _ kind, ?_⟩
    exact Nat.mul_le_mul_left 3600 (UInt64.le_iff_toNat_le.mp hle)

/-! ### A show that grows old -/

/-- Settings that keep records in the directory `/c`. -/
def keeping (hours : UInt64) : CacheSettings :=
  { dir := some ⟨['/', 'c']⟩, ttlHours := some hours }

def heroes : Show := { sourceId := "tvmaze", showId := "82", name := "Heroes" }

/-- A disk with the directory and its folder for shows. -/
def shelfDisk : Disk :=
  { tree := { entries :=
      [([['c']], .directory), ([['c'], ['s', 'h', 'o', 'w', 's']], .directory)] } }

theorem open_shelfDisk {seconds : Nat} (h : (keeping hours).ttl = .ok (some seconds))
    (home : Path) :
    (openDiskStore (keeping hours) home shelfDisk).1 =
      .ok (.ok (some ((keeping hours).store home (some seconds)))) := by
  rw [openDiskStore_eq rfl, h]
  rfl

/-- The disk with a show in the folder, at a later time. -/
def shelfDiskAt (now : Nat) : Disk :=
  let folder : RecordFolder Show := JsonStore.folderBelow ⟨['/', 'c']⟩ "shows" Show.codec
  { (folder.store "tvmaze/82" heroes shelfDisk).2 with now }

/-- The show is loaded as long as it is not older than the time to live. -/
theorem load_shelfDiskAt {now seconds : Nat} (hnow : now ≤ seconds * nanoseconds) :
    (((keeping hours).store home (some seconds)).folder .tvShow).load (shelfDiskAt now)
      "tvmaze/82" = .ok (some heroes) := by
  -- the hours do not matter for where the show is written, and so this can be evaluated
  let folder := ((keeping hours).store home (some seconds)).folder .tvShow
  have hwritten : (Disk.perform (.write (folder.entryPath "tvmaze/82")
      (Json.write (folder.codec.toJson heroes)).toUTF8) shelfDisk).1 = .ok () := by
    change (Disk.perform (.write ((JsonStore.folderBelow ⟨['/', 'c']⟩ "shows" Show.codec).entryPath
      "tvmaze/82") (Json.write (Show.codec.toJson heroes)).toUTF8) shelfDisk).1 = .ok ()
    decide +kernel
  have hreads : folder.codec.ReadsBack heroes := Show.lossless.readsBack heroes
  have httl : folder.ttl = some seconds := rfl
  have htree : (shelfDiskAt now).tree = (folder.store "tvmaze/82" heroes shelfDisk).2.tree := rfl
  have hfresh : ∀ seconds ∈ folder.ttl, (shelfDiskAt now).now ≤ 0 + seconds * nanoseconds := by
    intro seconds hseconds
    obtain rfl := Option.some.inj (httl.symm.trans hseconds)
    rw [Nat.zero_add]
    exact hnow
  exact (RecordFolder.load_written hreads hwritten htree hfresh).2

/-- A show that is a day old to the nanosecond. -/
theorem load_of_more_hours_day :
    let later := shelfDiskAt 86400000000000
    let home : Path := ⟨['/']⟩
    let day := (keeping 24).store home (some 86400)
    let week := (keeping 168).store home (some 604800)
    (openDiskStore (keeping 24) home shelfDisk).1 = .ok (.ok (some day)) ∧
      (openDiskStore (keeping 168) home shelfDisk).1 = .ok (.ok (some week)) ∧
      (day.folder .tvShow).load later "tvmaze/82" = .ok (some heroes) ∧
      (week.folder .tvShow).load later "tvmaze/82" = .ok (some heroes) := by
  intro later home day week
  obtain ⟨hfull, hfewer, -, hlonger⟩ :=
    @load_of_more_hours (keeping 24) (keeping 168) 24 168 rfl rfl rfl (by decide) home
  have hfits : 3600 * (168 : UInt64).toNat < 18446744073709551616 := by decide
  have hday : (openDiskStore (keeping 24) home shelfDisk).1 = .ok (.ok (some day)) :=
    open_shelfDisk (hfewer hfits) home
  have hweek : (openDiskStore (keeping 168) home shelfDisk).1 = .ok (.ok (some week)) :=
    open_shelfDisk (hfull.mpr hfits) home
  have hload : (day.folder .tvShow).load later "tvmaze/82" = .ok (some heroes) :=
    load_shelfDiskAt (by decide)
  exact ⟨hday, hweek, hload,
    hlonger shelfDisk shelfDisk day week hday hweek later .tvShow "tvmaze/82" heroes hload⟩

/-- A file with settings can ask for so many hours that the program breaks off, while a show that is
an hour old is there and is still good with the hours of a week. -/
theorem breakdown_of_hours :
    let text := "[cache]\ndir = \"/c\"\nttl_hours = 5124095576030432\n"
    let tree : FileTree := { entries := [([['f']], .file text.toUTF8 0)] }
    let home : Path := ⟨['/']⟩
    let later := shelfDiskAt 3600000000000
    let week := (keeping 168).store home (some 604800)
    (Config.load tree home (some ⟨['/', 'f']⟩)).toOption.map (·.cache) =
        some (keeping 5124095576030432) ∧
      (168 : UInt64) ≤ 5124095576030432 ∧
      (keeping 5124095576030432).ttl ≠ .ok (some (3600 * 5124095576030432)) ∧
      openDiskStore (keeping 5124095576030432) home later = (.error .productTooLarge, later) ∧
      (openDiskStore (keeping 168) home shelfDisk).1 = .ok (.ok (some week)) ∧
      (week.folder .tvShow).load later "tvmaze/82" = .ok (some heroes) := by
  intro text tree home later week
  have httl : (keeping 5124095576030432).ttl = .error .productTooLarge := by decide
  refine ⟨by decide +kernel, by decide, ?_, ?_, open_shelfDisk (by decide) home,
    load_shelfDiskAt (by decide)⟩
  · rw [httl]
    exact fun h => nomatch h
  · rw [openDiskStore_eq rfl, httl]

end CacheSettings

end MediaShelf
