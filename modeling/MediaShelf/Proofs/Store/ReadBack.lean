import MediaShelf.Proofs.Record.Codec

/-!
# Stored records are loaded again

A record that was written to disk is loaded again under its identifier, character for character,
whatever else the disk holds and whatever an earlier file of that name held, until its time to live
is over.

## Main definitions

* `RecordKind` — the kinds of records, with the form that each has on disk

## Main results

* `RecordFolder.load_written` — records whose form loses nothing
* `RecordKind.load_after_store` — records of all kinds
-/

namespace MediaShelf

/-- The kinds of records that are kept on disk. -/
inductive RecordKind where
  | tvShow
  | season
  | episode
  | film
  | searchResult
  deriving DecidableEq, Repr

namespace RecordKind

/-- The records of a kind. -/
def Record : RecordKind → Type
  | .tvShow => Show
  | .season => Season
  | .episode => Episode
  | .film => Film
  | .searchResult => SearchResult

/-- The form that records of a kind have on disk. -/
def codec : (kind : RecordKind) → Codec kind.Record
  | .tvShow => Show.codec
  | .season => Season.codec
  | .episode => Episode.codec
  | .film => Film.codec
  | .searchResult => SearchResult.codec

theorem lossless (kind : RecordKind) : kind.codec.Lossless := by
  cases kind with
  | tvShow => exact Show.lossless
  | season => exact Season.lossless
  | episode => exact Episode.lossless
  | film => exact Film.lossless
  | searchResult => exact SearchResult.lossless

end RecordKind

namespace RecordFolder

variable {α : Type} {folder : RecordFolder α} {disk later : Disk} {identifier : String} {value : α}

/-- A file with the written form of a record is read as that record. -/
theorem decode_written (hreads : folder.codec.ReadsBack value) (path : Path) (modified : Nat) :
    folder.decode path (some (.file (Json.write (folder.codec.toJson value)).toUTF8 modified)) =
      .ok (some value) := by
  have hread : (Json.read? (Json.write (folder.codec.toJson value))).bind folder.codec.ofJson? =
      some value := hreads
  simp only [decode, fromUTF8?_toUTF8, hread]

/-- What the file of a record holds is loaded as long as it is fresh. -/
theorem load_file (hreads : folder.codec.ReadsBack value) {place : Location} {modified : Nat}
    (hlocate : disk.tree.locate (folder.entryPath identifier) = .ok place)
    (hfile : disk.tree.get? place =
      some (.file (Json.write (folder.codec.toJson value)).toUTF8 modified))
    (hfresh : folder.isFresh disk.now
      (.file (Json.write (folder.codec.toJson value)).toUTF8 modified)) :
    folder.load disk identifier = .ok (some value) := by
  rw [load_of_locate hlocate, hfile, Option.filter_some, if_pos hfresh, decode_written hreads]

/-- Once the system has written the file of a record, the record counts as stored and is loaded at
any time before it expires. -/
theorem load_written (hreads : folder.codec.ReadsBack value)
    (hwritten : (Disk.perform (.write (folder.entryPath identifier)
      (Json.write (folder.codec.toJson value)).toUTF8) disk).1 = .ok ())
    (hlater : later.tree = (folder.store identifier value disk).2.tree)
    (hfresh : ∀ ttl ∈ folder.ttl, later.now ≤ disk.now + ttl * nanoseconds) :
    (folder.store identifier value disk).1 = .ok () ∧
      folder.load later identifier = .ok (some value) := by
  obtain ⟨place, hlocate, hfree, htree⟩ := FileTree.perform_write hwritten
  rw [store_eq] at hlater ⊢
  refine ⟨mapError_eq_ok.mpr hwritten, ?_⟩
  have hfile : later.tree.get? place =
      some (.file (Json.write (folder.codec.toJson value)).toUTF8 disk.now) := by
    rw [hlater, htree, FileTree.get?_put (FileTree.ne_nil_of_not_directory hfree), if_pos rfl]
  -- the write replaced no directory, so the path still leads to the file
  have hkeeps : FileTree.KeepsDirectories disk.tree later.tree := by
    rw [hlater, htree]
    exact .put hfree
  have hyoung : folder.isFresh later.now
      (.file (Json.write (folder.codec.toJson value)).toUTF8 disk.now) := by
    simpa [isFresh, Option.all_eq_true] using hfresh
  exact load_file hreads (hkeeps.locate hlocate) hfile hyoung

end RecordFolder

open RecordFolder (nanoseconds)

/-- A record of any kind, with any characters in its texts, any fields left out and any numbers, is
stored under any identifier as soon as the system lets its file be written, and from then on loaded
as it was until its time to live is over. -/
theorem RecordKind.load_after_store (kind : RecordKind) (path : Path) (ttl : Option Nat)
    (identifier : String) (value : kind.Record) (disk later : Disk) :
    let folder : RecordFolder kind.Record := ⟨path, ttl, kind.codec⟩
    let stored := folder.store identifier value disk
    (Disk.perform (.write (folder.entryPath identifier)
      (Json.write (kind.codec.toJson value)).toUTF8) disk).1 = .ok () →
    later.tree = stored.2.tree →
    (∀ seconds ∈ ttl, later.now ≤ disk.now + seconds * nanoseconds) →
    stored.1 = .ok () ∧ folder.load later identifier = .ok (some value) := by
  intro folder stored hwritten hlater hfresh
  exact RecordFolder.load_written (kind.lossless.readsBack value) hwritten hlater hfresh

/-- A season with marks, control characters and a character of four bytes in its texts, loaded in
the last nanosecond of its hour. -/
theorem RecordKind.load_after_store_season :
    let episode : Episode :=
      { sourceId := "tvmaze", showId := "82", seasonNumber := 0, episodeNumbers := [1, 4294967295],
        title := "\"Don't\" \\ Look\tBack\r\n", summary := "\x00\x01\x1f\x7f \x7b\x7d 😀",
        airDate := some "" }
    let season : Season :=
      { sourceId := "tvmaze", showId := "82", seasonNumber := 0, url := none,
        episodes := [episode, { episode with title := "" }], specials := [] }
    let disk : Disk := { tree := { entries := [([['c']], .directory)] } }
    let folder : RecordFolder Season := ⟨⟨['/', 'c']⟩, some 3600, Season.codec⟩
    let stored := folder.store "tvmaze/82/0" season disk
    let later : Disk := { stored.2 with now := 3600000000000 }
    (Disk.perform (.write (folder.entryPath "tvmaze/82/0")
        (Json.write (Season.codec.toJson season)).toUTF8) disk).1 = .ok () ∧
      stored.1 = .ok () ∧ folder.load later "tvmaze/82/0" = .ok (some season) := by
  intro episode season disk folder stored later
  have hwritten : (Disk.perform (.write (folder.entryPath "tvmaze/82/0")
      (Json.write (Season.codec.toJson season)).toUTF8) disk).1 = .ok () := by
    decide +kernel
  have hread := RecordKind.load_after_store .season ⟨['/', 'c']⟩ (some 3600) "tvmaze/82/0" season
    disk later hwritten rfl (by decide)
  exact ⟨hwritten, hread⟩

end MediaShelf
